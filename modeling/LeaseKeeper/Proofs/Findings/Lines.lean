import LeaseKeeper.Proofs.Flatten.LastLeaf
import LeaseKeeper.SetupError
import Mathlib.Data.List.Nodup
/-!
The lines that are made of findings. The lists of messages in a tree of findings are its nodes, each
named by its place; one line is told for each of them. A tree is written down with its entries in
some order, of which nothing is known but that no name or index comes twice among them, so what is
proved of the lines holds up to their order.
-/
namespace LeaseKeeper.Findings

open Json Flatten Text

def messagesAt? : Findings → Place → Option (List (Option String))
  | .messages ms, [] => some ms
  | .fields entries, .field name :: place => (entries.lookup name).bind (messagesAt? · place)
  | .items entries, .item index :: place =>
    (entries.lookup index).bind fun inner => messagesAt? (.fields inner) place
  | _, _ => none

/-- No name and no index comes twice in one structure, at any depth. -/
inductive Distinct : Findings → Prop
  | messages (ms : List (Option String)) : Distinct (.messages ms)
  | fields {entries : List (String × Findings)} (names : (entries.map Prod.fst).Nodup)
      (each : ∀ entry ∈ entries, Distinct entry.2) : Distinct (.fields entries)
  | items {entries : List (Nat × List (String × Findings))}
      (indices : (entries.map Prod.fst).Nodup)
      (each : ∀ entry ∈ entries, Distinct (.fields entry.2)) : Distinct (.items entries)

@[simp] theorem distinct_messages (ms : List (Option String)) : Distinct (.messages ms) :=
  .messages ms

@[simp] theorem distinct_fields {entries : List (String × Findings)} :
    Distinct (.fields entries) ↔
      (entries.map Prod.fst).Nodup ∧ ∀ entry ∈ entries, Distinct entry.2 :=
  ⟨fun | .fields names each => ⟨names, each⟩, fun ⟨names, each⟩ => .fields names each⟩

@[simp] theorem distinct_items {entries : List (Nat × List (String × Findings))} :
    Distinct (.items entries) ↔
      (entries.map Prod.fst).Nodup ∧ ∀ entry ∈ entries, Distinct (.fields entry.2) :=
  ⟨fun | .items indices each => ⟨indices, each⟩, fun ⟨indices, each⟩ => .items indices each⟩

structure Node where
  place : Place
  messages : List (Option String)
  deriving DecidableEq, Repr

namespace Node

def under (step : Step) (node : Node) : Node := { node with place := step :: node.place }

def text (node : Node) : String :=
  ", ".intercalate (node.messages.map fun message => message.getD "Invalid value")

def line (node : Node) : String := render node.place ++ ": " ++ node.text

def lineBelow (path : String) (node : Node) : String :=
  node.place.foldl extend path ++ ": " ++ node.text

end Node

mutual

def nodes : Findings → List Node
  | .messages ms => [⟨[], ms⟩]
  | .fields entries => fieldNodes entries
  | .items entries => itemNodes entries

def fieldNodes : List (String × Findings) → List Node
  | [] => []
  | (name, f) :: rest => (nodes f).map (Node.under (.field name)) ++ fieldNodes rest

def itemNodes : List (Nat × List (String × Findings)) → List Node
  | [] => []
  | (index, inner) :: rest => (fieldNodes inner).map (Node.under (.item index)) ++ itemNodes rest

end

/-! ### One line for each node -/

theorem map_lineBelow_under (path : String) (step : Step) (inner : List Node) :
    (inner.map (Node.under step)).map (Node.lineBelow path) =
      inner.map (Node.lineBelow (extend path step)) := by
  rw [List.map_map]
  rfl

mutual

theorem lines_eq (path : String) : (f : Findings) →
    lines path f = (nodes f).map (Node.lineBelow path)
  | .messages _ => rfl
  | .fields entries => by rw [lines, nodes, fieldLines_eq path entries]
  | .items entries => by rw [lines, nodes, itemLines_eq path entries]

theorem fieldLines_eq (path : String) : (entries : List (String × Findings)) →
    fieldLines path entries = (fieldNodes entries).map (Node.lineBelow path)
  | [] => rfl
  | (name, f) :: rest => by
    rw [fieldLines, fieldNodes, List.map_append, map_lineBelow_under, field_eq_extend,
      lines_eq _ f, fieldLines_eq path rest]

theorem itemLines_eq (path : String) : (entries : List (Nat × List (String × Findings))) →
    itemLines path entries = (itemNodes entries).map (Node.lineBelow path)
  | [] => rfl
  | (index, inner) :: rest => by
    rw [itemLines, itemNodes, List.map_append, map_lineBelow_under, item_eq_extend,
      fieldLines_eq _ inner, itemLines_eq path rest]

end

/-! ### Which nodes there are -/

theorem lookup_eq_some_iff {K V : Type} [BEq K] [LawfulBEq K] {entries : List (K × V)}
    (keys : (entries.map Prod.fst).Nodup) {key : K} {value : V} :
    entries.lookup key = some value ↔ (key, value) ∈ entries := by
  induction entries with
  | nil => simp
  | cons entry rest ih =>
    obtain ⟨other, first⟩ := entry
    obtain ⟨fresh, keys⟩ := List.nodup_cons.mp keys
    by_cases same : key = other
    · subst same
      have absent : (key, value) ∉ rest := fun member =>
        fresh (List.mem_map.mpr ⟨_, member, rfl⟩)
      simp [absent, eq_comm]
    · simp [List.lookup_cons, beq_false_of_ne same, same, ih keys]

section Branches

variable {K V : Type} [BEq K] [LawfulBEq K] {step : K → Step} {inner : V → List Node}
  {entries : List (K × V)}

def branches (step : K → Step) (inner : V → List Node) (entries : List (K × V)) : List Node :=
  entries.flatMap fun entry => (inner entry.2).map (Node.under (step entry.1))

theorem mem_branches {found? : V → Place → Option (List (Option String))}
    (keys : (entries.map Prod.fst).Nodup)
    (each : ∀ entry ∈ entries, ∀ {place ms},
      ⟨place, ms⟩ ∈ inner entry.2 ↔ found? entry.2 place = some ms)
    {place : Place} {ms : List (Option String)} :
    ⟨place, ms⟩ ∈ branches step inner entries ↔ ∃ key rest, place = step key :: rest ∧
      (entries.lookup key).bind (found? · rest) = some ms := by
  simp only [branches, List.mem_flatMap, List.mem_map]
  constructor
  · rintro ⟨⟨key, value⟩, member, ⟨rest, own⟩, listed, same⟩
    obtain ⟨rfl, rfl⟩ := Node.mk.inj same
    refine ⟨key, rest, rfl, ?_⟩
    rw [(lookup_eq_some_iff keys).mpr member]
    exact (each _ member).mp listed
  · rintro ⟨key, rest, rfl, found⟩
    obtain ⟨value, here, found⟩ := Option.bind_eq_some_iff.mp found
    have member := (lookup_eq_some_iff keys).mp here
    exact ⟨(key, value), member, ⟨rest, ms⟩, (each _ member).mpr found, rfl⟩

omit [BEq K] [LawfulBEq K] in
theorem nodup_branches (injective : Function.Injective step)
    (keys : (entries.map Prod.fst).Nodup) (each : ∀ entry ∈ entries, (inner entry.2).Nodup) :
    (branches step inner entries).Nodup := by
  have under_injective (key : K) : Function.Injective (Node.under (step key)) := by
    rintro ⟨place, ms⟩ ⟨other, ns⟩ same
    simpa [Node.under] using same
  refine List.nodup_flatMap.mpr
    ⟨fun entry member => (each entry member).map (under_injective _), ?_⟩
  -- nodes behind different entries part at their first step
  refine (List.pairwise_map.mp keys).imp ?_
  intro entry other differ node member other_member
  obtain ⟨found, -, rfl⟩ := List.mem_map.mp member
  obtain ⟨back, -, same⟩ := List.mem_map.mp other_member
  have first : step other.1 = step entry.1 := (List.cons.inj (congrArg Node.place same)).1
  exact differ (injective first).symm

end Branches

theorem fieldNodes_eq (entries : List (String × Findings)) :
    fieldNodes entries = branches .field nodes entries := by
  induction entries with
  | nil => rfl
  | cons entry rest ih => rw [fieldNodes, ih, branches, branches, List.flatMap_cons]

theorem itemNodes_eq (entries : List (Nat × List (String × Findings))) :
    itemNodes entries = branches .item fieldNodes entries := by
  induction entries with
  | nil => rfl
  | cons entry rest ih => rw [itemNodes, ih, branches, branches, List.flatMap_cons]

theorem messagesAt?_fields {entries : List (String × Findings)} {place : Place}
    {ms : List (Option String)} :
    (fields entries).messagesAt? place = some ms ↔ ∃ name rest, place = .field name :: rest ∧
      (entries.lookup name).bind (messagesAt? · rest) = some ms := by
  match place with
  | [] | .item _ :: _ | .field _ :: _ => simp [messagesAt?]

theorem messagesAt?_items {entries : List (Nat × List (String × Findings))} {place : Place}
    {ms : List (Option String)} :
    (items entries).messagesAt? place = some ms ↔ ∃ index rest, place = .item index :: rest ∧
      (entries.lookup index).bind (fun inner => messagesAt? (.fields inner) rest) = some ms := by
  match place with
  | [] | .item _ :: _ | .field _ :: _ => simp [messagesAt?]

theorem mem_nodes {f : Findings} (distinct : f.Distinct) {place : Place}
    {ms : List (Option String)} : ⟨place, ms⟩ ∈ nodes f ↔ f.messagesAt? place = some ms := by
  induction distinct generalizing place ms with
  | messages own => cases place <;> simp [nodes, messagesAt?, eq_comm]
  | fields names each ih =>
    rw [nodes, fieldNodes_eq, messagesAt?_fields]
    exact mem_branches names ih
  | items indices each ih =>
    rw [nodes, itemNodes_eq, messagesAt?_items]
    exact mem_branches indices ih

theorem nodup_nodes {f : Findings} (distinct : f.Distinct) : (nodes f).Nodup := by
  induction distinct with
  | messages ms => exact List.nodup_singleton _
  | fields names each ih =>
    rw [nodes, fieldNodes_eq]
    exact nodup_branches (fun _ _ same => Step.field.inj same) names ih
  | items indices each ih =>
    rw [nodes, itemNodes_eq]
    exact nodup_branches (fun _ _ same => Step.item.inj same) indices ih

/-! ### What is told -/

structure Lists (f : Findings) (all : List Node) : Prop where
  once : all.Nodup
  mem : ∀ place ms, ⟨place, ms⟩ ∈ all ↔ f.messagesAt? place = some ms

theorem lists_nodes {f : Findings} (distinct : f.Distinct) : Lists f (nodes f) :=
  ⟨nodup_nodes distinct, fun _ _ => mem_nodes distinct⟩

theorem Lists.perm {f : Findings} {all others : List Node} (lists : Lists f all)
    (back : Lists f others) : all.Perm others := by
  refine (List.perm_ext_iff_of_nodup lists.once back.once).mpr ?_
  rintro ⟨place, ms⟩
  rw [lists.mem, back.mem]

/-- The lines of a structure are those of its nodes, in whatever order these are listed. -/
theorem Lists.lines_perm {entries : List (String × Findings)} {all : List Node}
    (distinct : (fields entries).Distinct) (lists : Lists (.fields entries) all) :
    (fieldLines "" entries).Perm (all.map Node.line) := by
  have same : fieldLines "" entries = (nodes (.fields entries)).map Node.line := by
    rw [fieldLines_eq, nodes]
    rfl
  rw [same]
  exact ((lists_nodes distinct).perm lists).map _

theorem lines_perm_of_same {entries others : List (String × Findings)}
    (distinct : (fields entries).Distinct) (others_distinct : (fields others).Distinct)
    (same : ∀ place, (fields others).messagesAt? place = (fields entries).messagesAt? place) :
    (fieldLines "" others).Perm (fieldLines "" entries) := by
  have lists := lists_nodes distinct
  have others_list : Lists (.fields others) (nodes (.fields entries)) :=
    ⟨lists.once, fun place ms => by rw [same, lists.mem]⟩
  exact (others_list.lines_perm others_distinct).trans (lists.lines_perm distinct).symm

/-- Each node of a structure makes one line of the error, and nothing else does. -/
theorem findings_told (entries : List (String × Findings))
    (distinct : (fields entries).Distinct) :
    (∃ all, Lists (.fields entries) all) ∧
    (∀ all, Lists (.fields entries) all → (fieldLines "" entries).Perm (all.map Node.line)) ∧
    (∀ others, (fields others).Distinct →
      (∀ place, (fields others).messagesAt? place = (fields entries).messagesAt? place) →
        (fieldLines "" others).Perm (fieldLines "" entries)) ∧
    error entries =
      .validation ("Validation failed: " ++ "; ".intercalate (fieldLines "" entries)) none := by
  refine ⟨⟨_, lists_nodes distinct⟩, ?_, ?_, rfl⟩
  · intro all lists
    exact lists.lines_perm distinct
  · intro others others_distinct same
    exact lines_perm_of_same distinct others_distinct same

def misfit : List (String × Findings) := [
  ("hosts", .items [(2, [("port", .messages [none, some "too large"])]), (0, [])]),
  ("name", .messages [some "cannot be empty"]),
  ("tls", .fields [("key", .messages [some "not found"])])]

theorem misfit_told :
    (fields misfit).Distinct ∧ (fieldLines "" misfit).Perm
      ["tls.key: not found", "name: cannot be empty",
        "hosts[2].port: Invalid value, too large"] := by
  have distinct : (fields misfit).Distinct := by simp [misfit]
  have lists : Lists (.fields misfit) (nodes (.fields misfit)).reverse :=
    ⟨List.nodup_reverse.mpr (nodup_nodes distinct), fun _ _ => by
      rw [List.mem_reverse, mem_nodes distinct]⟩
  exact ⟨distinct, (findings_told misfit distinct).2.1 _ lists⟩

end LeaseKeeper.Findings
