import LeaseKeeper.CommandLine.Program
import LeaseKeeper.Http.Wire
import Std.Async.DNS
import Std.Async.Signal
import Std.Async.TCP
import Std.Async.Timer
/-!
The program on a machine: environment variables, plain connections, the machine's clock, and an
interrupt that ends the wait. Encrypted connections cannot be made, so a store that wants one counts
as unreachable.
-/
namespace LeaseKeeper.Machine

open CommandLine Http Std.Async Std.Net

/-! ### Connections -/

def socketAddress (address : IPAddr) (port : Nat) : SocketAddress :=
  match address with
  | .v4 addr => .v4 ⟨addr, port.toUInt16⟩
  | .v6 addr => .v6 ⟨addr, port.toUInt16⟩

def connect (port : Nat) : List IPAddr → Async TCP.Socket.Client
  | [] => throw (IO.userError "no connection")
  | address :: rest =>
    tryCatch (do
      let socket ← TCP.Socket.Client.mk
      socket.connect (socketAddress address port)
      return socket) fun _ => connect port rest

partial def receiveAll (socket : TCP.Socket.Client) (received : ByteArray) : Async ByteArray := do
  match ← socket.recv? 65536 with
  | none => return received
  | some bytes => receiveAll socket (received ++ bytes)

def plainHost (host : String) : String :=
  String.ofList (host.toList.filter fun c => c != '[' && c != ']')

def exchange (request : Request) : Async Outcome := do
  let port := (request.url.port <|> Url.defaultPort request.url.scheme).getD 80
  let addresses ← DNS.getAddrInfo (plainHost (request.url.host.getD "")) (toString port)
  let socket ← connect port addresses.toList
  socket.send (Wire.requestText request).toUTF8
  let received ← receiveAll socket .empty
  return match Wire.answer? received.toList with
    | some answer => .answered answer
    | none => .unreachable

def pause (milliseconds : Nat) : Async Unit := sleep ⟨Int.ofNat milliseconds⟩

def send (request : Request) : IO Outcome := do
  if request.url.scheme != "http" then return .unreachable
  tryCatch (match request.patience with
    | none => (exchange request).block
    | some seconds =>
      (Async.race (exchange request) (do pause (1000 * seconds); return .unreachable)).block)
    fun _ => return .unreachable

/-! ### Metrics -/

def pageAnswer (page : String) : String :=
  "HTTP/1.1 200 OK\r\nContent-Type: text/plain\r\nConnection: close\r\nContent-Length: " ++
    toString page.utf8ByteSize ++ "\r\n\r\n" ++ page

partial def serveForever (server : TCP.Socket.Server) (page : IO.Ref String) : Async Unit := do
  let client ← server.accept
  tryCatch (do
    let _ ← client.recv? 65536
    client.send (pageAnswer (← page.get)).toUTF8
    client.shutdown) fun _ => return ()
  serveForever server page

def serve (page : IO.Ref String) (port : Nat) : IO Bool :=
  tryCatch (do
    let server ← TCP.Socket.Server.mk
    server.bind (socketAddress (.v4 (.ofParts 0 0 0 0)) port)
    server.listen 16
    let _ ← (serveForever server page).asTask
    return true) fun _ => return false

/-! ### Time -/

/-- Waits for an interrupt, and until an instant where one is given. The first wait starts to listen
for interrupts. -/
def waitUntil (start : Nat) (waiter : IO.Ref (Option Signal.Waiter)) (due : Option Nat) :
    IO (Option Nat) := do
  let waiting ← match ← waiter.get with
    | some waiting => pure waiting
    | none => do
      let waiting ← Signal.Waiter.mk .sigint false
      waiter.set (some waiting)
      pure waiting
  let interrupted ← waiting.wait
  let stopped : Async (Option Nat) := do
    let _ ← Async.ofAsyncTask interrupted
    return none
  match due with
  | none => stopped.block
  | some due => do
    let elapsed := (← IO.monoNanosNow) - start
    Async.block (Async.race stopped do
      pause (Span.toMillis (due - elapsed) + 1)
      return some (max due ((← IO.monoNanosNow) - start)))

def canRead (path : String) : IO Bool :=
  tryCatch (do let _ ← IO.FS.readBinFile path; return true) fun _ => return false

def world : IO (World IO) := do
  let vars ← Settings.variableNames.mapM fun name => return (name, ← IO.getEnv name)
  let page ← IO.mkRef ""
  let waiter ← IO.mkRef none
  let start ← IO.monoNanosNow
  return {
    vars := fun name => (vars.lookup name).join
    canRead
    send
    serve := serve page
    publish := page.set
    wait := waitUntil start waiter }

end LeaseKeeper.Machine

open LeaseKeeper in
def main (words : List String) : IO UInt32 := do
  let ending ← CommandLine.run (← Machine.world) words
  (← IO.getStdout).putStr ending.output
  (← IO.getStderr).putStr ending.complaint
  return ending.exitCode.toUInt32
