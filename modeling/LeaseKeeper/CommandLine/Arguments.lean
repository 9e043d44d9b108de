/-!
The words of a command line as an invocation. An option with a value takes the next word unless
that looks like an option itself; after `--` no word is an option. The first thing wrong from the
left is reported, and what is wrong after a subcommand comes before what is wrong ahead of it.
-/
namespace LeaseKeeper.CommandLine

inductive Command where
  | watch (renewable rotating : List String) (failFast : Bool) (start : Option String)
  | read (path : String) (revoke : Bool)
  | config
  deriving DecidableEq, Repr

structure Invocation where
  command : Command
  storeAddress : Option String
  verbose : Bool
  deriving DecidableEq, Repr

inductive UsageError where
  | helpWanted
  | versionWanted
  | helpForNothing
  | unknownSubcommand
  | missingSubcommand
  | unknownArgument
  | missingArgument
  | missingValue
  | surplusValue
  | repeated
  deriving DecidableEq, Repr

def UsageError.exitCode : UsageError → Nat
  | helpWanted | versionWanted => 0
  | _ => 2

inductive Level where
  | top
  | watch
  | read
  | config
  deriving DecidableEq, Repr

def Level.named? : String → Option Level
  | "watch" => some watch
  | "read" => some read
  | "config" => some config
  | _ => none

inductive Key where
  | help
  | version
  | address
  | verbose
  | renewable
  | rotating
  | failFast
  | start
  | revoke
  | path
  deriving DecidableEq, Repr

namespace Key

def takesValue : Key → Bool
  | address | renewable | rotating | start => true
  | _ => false

def isRepeatable : Key → Bool
  | renewable | rotating => true
  | _ => false

def ofLong? (level : Level) (name : String) : Option Key :=
  match name, level with
  | "help", _ => some help
  | "version", .top => some version
  | "vault-addr", _ => some address
  | "verbose", _ => some verbose
  | "renewable", .watch => some renewable
  | "rotating", .watch => some rotating
  | "fail-fast", .watch => some failFast
  | "prefix", .watch => some start
  | "revoke", .read => some revoke
  | _, _ => none

def ofShort? (level : Level) (letter : Char) : Option Key :=
  match letter, level with
  | 'h', _ => some help
  | 'v', _ => some verbose
  | 'V', .top => some version
  | _, _ => none

end Key

structure Progress where
  taken : List (Key × String)
  waiting : Option (Key × Option String)
  deriving DecidableEq, Repr

namespace Progress

def empty : Progress := ⟨[], none⟩

def has (p : Progress) (key : Key) : Bool := p.taken.any (·.1 == key)

def value? (p : Progress) (key : Key) : Option String := p.taken.lookup key

def values (p : Progress) (key : Key) : List String :=
  (p.taken.filter (·.1 == key)).map Prod.snd

def wantsValue (p : Progress) : Bool :=
  match p.waiting with
  | some (_, none) => true
  | _ => false

def take (p : Progress) (key : Key) (value : String) : Except UsageError Progress :=
  if p.has key && !key.isRepeatable then .error .repeated
  else .ok { p with taken := p.taken ++ [(key, value)] }

def settle (p : Progress) : Except UsageError Progress :=
  match p.waiting with
  | none => .ok p
  | some (_, none) => .error .missingValue
  | some (key, some value) => { p with waiting := none }.take key value

def supply (p : Progress) (value : String) : Progress :=
  { p with waiting := p.waiting.map fun (key, _) => (key, some value) }

def flag (p : Progress) (key : Key) : Except UsageError Progress := do
  let p ← p.settle
  match key with
  | .help => .error .helpWanted
  | .version => .error .versionWanted
  | _ => p.take key ""

def short (level : Level) (p : Progress) (letter : Char) : Except UsageError Progress :=
  match Key.ofShort? level letter with
  | none => .error .unknownArgument
  | some key => p.flag key

def long (level : Level) (p : Progress) (word : List Char) : Except UsageError Progress :=
  let name := String.ofList (word.takeWhile (· != '='))
  let attached := match word.dropWhile (· != '=') with
    | [] => none
    | _ :: value => some (String.ofList value)
  match Key.ofLong? level name, attached with
  | none, _ => .error .unknownArgument
  | some key, some value =>
    if key.takesValue then do (← p.settle).take key value else .error .surplusValue
  | some key, none =>
    if key.takesValue then do return { (← p.settle) with waiting := some (key, none) }
    else p.flag key

/-- A word that is no option. Only a read takes one. -/
def word (level : Level) (trailing : Bool) (p : Progress) (w : String) :
    Except UsageError Progress :=
  match level with
  | .read =>
    if p.has .path then .error .unknownArgument else do (← p.settle).take .path w
  | .top =>
    if trailing && (w == "help" || (Level.named? w).isSome) then .error .unknownArgument
    else .error .unknownSubcommand
  | _ => .error .unknownArgument

def command (p : Progress) : Level → Except UsageError Command
  | .top => .error .missingSubcommand
  | .watch =>
    .ok (.watch (p.values .renewable) (p.values .rotating) (p.has .failFast) (p.value? .start))
  | .read =>
    match p.value? .path with
    | some path => .ok (.read path (p.has .revoke))
    | none => .error .missingArgument
  | .config => .ok .config

end Progress

/-- Help on one subcommand is help; there is none on anything else. -/
def helpOn : List String → UsageError
  | [] => .helpWanted
  | [w] => if w = "help" ∨ (Level.named? w).isSome then .helpWanted else .unknownSubcommand
  | _ => .unknownSubcommand

def scan (level : Level) : (trailing : Bool) → Progress → List String →
    Except UsageError (Progress × Option (Level × List String))
  | _, p, [] => do return (← p.settle, none)
  | true, p, w :: ws => do scan level true (← p.word level true w) ws
  | false, p, w :: ws =>
    let mayCommand := level == .top && !p.wantsValue
    if mayCommand && w == "help" then .error (helpOn ws)
    else
      match if mayCommand then Level.named? w else none with
      | some next => .ok (p, some (next, ws))
      | none =>
        match w.toList with
        | ['-', '-'] => scan level true p ws
        | '-' :: '-' :: name => do scan level false (← p.long level name) ws
        | '-' :: c :: cs => do scan level false (← (c :: cs).foldlM (Progress.short level) p) ws
        | _ =>
          if p.wantsValue then scan level false (p.supply w) ws
          else do scan level false (← p.word level false w) ws

/-- Options of the whole program may stand before or after the subcommand; those after it win. -/
def parse (words : List String) : Except UsageError Invocation := do
  let (top, next) ← scan .top false .empty words
  match next with
  | none => .error (if top.taken.isEmpty then .helpForNothing else .missingSubcommand)
  | some (level, rest) =>
    let (inner, _) ← scan level false .empty rest
    let command ← inner.command level
    let top ← top.settle
    return ⟨command, inner.value? .address <|> top.value? .address,
      inner.has .verbose || top.has .verbose⟩

end LeaseKeeper.CommandLine
