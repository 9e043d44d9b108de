import LeaseKeeper.Proofs.Flatten.LastLeaf
import LeaseKeeper.Source
/-!
Where flattening loses nothing. If no key of an object is empty and none has a dot or an opening
bracket in it, the place of a leaf can be read back from its key, so no two leaves share one: the
flat map has one entry for each leaf. A source's own start before every key changes nothing of
this, since it is known what to leave out.
-/
namespace LeaseKeeper.Flatten

open Json

/-- A key that cannot be mistaken for several steps. -/
def PlainKey (name : String) : Prop := name ≠ "" ∧ '.' ∉ name.toList ∧ '[' ∉ name.toList

def PlainFields (fields : TextMap Value) : Prop := ∀ field ∈ fields, PlainKey field.1

abbrev PlainKeys (v : Value) : Prop := v.Throughout PlainFields

theorem ofFields_plain {fields : List (String × Value)} (here : PlainFields fields)
    (each : ∀ field ∈ fields, PlainKeys field.2) : PlainKeys (.ofFields fields) :=
  Value.ofFields_throughout (fun field member => here field (TextMap.mem_of_mem_ofEntries member))
    each

/-! ### Reading a place back -/

mutual

def stepsAfter? : List Char → Option Place
  | [] => some []
  | '.' :: cs => nameThen? [] cs
  | '[' :: cs => indexThen? [] cs
  | _ :: _ => none

def nameThen? (done : List Char) : List Char → Option Place
  | [] => some [.field (String.ofList done.reverse)]
  | '.' :: cs => (nameThen? [] cs).map (.field (String.ofList done.reverse) :: ·)
  | '[' :: cs => (indexThen? [] cs).map (.field (String.ofList done.reverse) :: ·)
  | c :: cs => nameThen? (c :: done) cs

def indexThen? (done : List Char) : List Char → Option Place
  | [] => none
  | ']' :: cs => (stepsAfter? cs).map (.item (Nat.ofDigitChars 10 done.reverse 0) :: ·)
  | c :: cs => indexThen? (c :: done) cs

end

/-- Reads a rendered place. Before a first name there is no dot. -/
def place? : List Char → Option Place
  | [] => some []
  | '[' :: cs => indexThen? [] cs
  | cs => nameThen? [] cs

/-! ### What is read is what was rendered -/

def suffix : Place → List Char
  | [] => []
  | .field name :: place => '.' :: (name.toList ++ suffix place)
  | .item index :: place => '[' :: (Nat.toDigits 10 index ++ ']' :: suffix place)

theorem toList_foldl_extend {path : String} (nonempty : path ≠ "") (place : Place) :
    (place.foldl extend path).toList = path.toList ++ suffix place := by
  induction place generalizing path with
  | nil => simp [suffix]
  | cons step place ih =>
    have longer : extend path step ≠ "" := by
      cases step <;> simp [extend, nonempty]
    rw [List.foldl_cons, ih longer]
    cases step <;> simp [extend, suffix, nonempty]

theorem nameThen?_append {name : List Char} (dotless : '.' ∉ name) (bracketless : '[' ∉ name)
    (done : List Char) (place : Place) :
    nameThen? done (name ++ suffix place) =
      (stepsAfter? (suffix place)).map (.field (String.ofList (done.reverse ++ name)) :: ·) := by
  induction name generalizing done with
  | nil =>
    match place with
    | [] => simp [suffix, nameThen?, stepsAfter?]
    | .field _ :: _ => simp [suffix, nameThen?, stepsAfter?]
    | .item _ :: _ => simp [suffix, nameThen?, stepsAfter?]
  | cons c name ih =>
    obtain ⟨dot, dotless⟩ := not_or.mp (mt List.mem_cons.mpr dotless)
    obtain ⟨bracket, bracketless⟩ := not_or.mp (mt List.mem_cons.mpr bracketless)
    have step : nameThen? done (c :: (name ++ suffix place)) =
        nameThen? (c :: done) (name ++ suffix place) := by
      rw [nameThen?]
      · exact fun same => dot same.symm
      · exact fun same => bracket same.symm
    rw [List.cons_append, step, ih dotless bracketless]
    simp

theorem indexThen?_append {digits : List Char} (bracketless : ']' ∉ digits) (done : List Char)
    (rest : List Char) :
    indexThen? done (digits ++ ']' :: rest) =
      (stepsAfter? rest).map (.item (Nat.ofDigitChars 10 (done.reverse ++ digits) 0) :: ·) := by
  induction digits generalizing done with
  | nil => rw [List.nil_append, indexThen?, List.append_nil]
  | cons c digits ih =>
    obtain ⟨bracket, bracketless⟩ := not_or.mp (mt List.mem_cons.mpr bracketless)
    rw [List.cons_append, indexThen?, ih bracketless]
    · simp
    · exact fun same => bracket same.symm

theorem indexThen?_suffix (index : Nat) (place : Place) :
    indexThen? [] (Nat.toDigits 10 index ++ ']' :: suffix place) =
      (stepsAfter? (suffix place)).map (.item index :: ·) := by
  have bracketless : ']' ∉ Nat.toDigits 10 index := fun member =>
    absurd (Nat.isDigit_of_mem_toDigits (by decide) (by decide) member) (by decide)
  rw [indexThen?_append bracketless, List.reverse_nil, List.nil_append,
    Nat.ofDigitChars_ten_toDigits]

def PlainPlace (place : Place) : Prop := ∀ name, .field name ∈ place → PlainKey name

theorem PlainPlace.nil : PlainPlace [] := by simp [PlainPlace]

theorem PlainPlace.item {place : Place} (plain : PlainPlace place) (index : Nat) :
    PlainPlace (.item index :: place) := fun name member => plain name (by simpa using member)

theorem PlainPlace.field {place : Place} (plain : PlainPlace place) {name : String}
    (key : PlainKey name) : PlainPlace (.field name :: place) := by
  rintro other (_ | ⟨_, member⟩)
  · exact key
  · exact plain other member

theorem PlainPlace.tail {step : Step} {place : Place} (plain : PlainPlace (step :: place)) :
    PlainPlace place := fun name member => plain name (List.mem_cons_of_mem _ member)

theorem stepsAfter?_suffix {place : Place} (plain : PlainPlace place) :
    stepsAfter? (suffix place) = some place := by
  induction place with
  | nil => rfl
  | cons step place ih =>
    have rest := ih plain.tail
    cases step with
    | field name =>
      obtain ⟨-, dotless, bracketless⟩ := plain name List.mem_cons_self
      rw [suffix, stepsAfter?, nameThen?_append dotless bracketless, rest]
      simp
    | item index =>
      rw [suffix, stepsAfter?, indexThen?_suffix, rest]
      rfl

theorem place?_render {place : Place} (plain : PlainPlace place) :
    place? (render place).toList = some place := by
  match place with
  | [] => rfl
  | .field name :: place =>
    obtain ⟨nonempty, dotless, bracketless⟩ := plain name List.mem_cons_self
    have chars : (render (.field name :: place)).toList = name.toList ++ suffix place :=
      toList_foldl_extend nonempty place
    -- a first name has no dot before it, and it does not start with a bracket
    have first : place? (name.toList ++ suffix place) =
        nameThen? [] (name.toList ++ suffix place) := by
      match is : name.toList with
      | [] => exact absurd (String.toList_eq_nil_iff.mp is) nonempty
      | c :: cs =>
        rw [List.cons_append, place?]
        · simp
        · rintro _ same
          exact bracketless (is ▸ (List.cons.inj same).1 ▸ List.mem_cons_self)
    rw [chars, first, nameThen?_append dotless bracketless, stepsAfter?_suffix plain.tail]
    simp
  | .item index :: place =>
    have chars : (render (.item index :: place)).toList =
        '[' :: (Nat.toDigits 10 index ++ ']' :: suffix place) := by
      have nonempty : extend "" (.item index) ≠ "" := by simp [extend]
      rw [render, List.foldl_cons, toList_foldl_extend nonempty]
      simp [extend]
    rw [chars, place?, indexThen?_suffix, stepsAfter?_suffix plain.tail]
    rfl

theorem PlainKeys.plainPlace {v : Value} (plain : PlainKeys v) {place : Place} {text : String}
    (found : v.textAt? place = some text) : PlainPlace place := by
  induction place generalizing v with
  | nil => exact .nil
  | cons step inner ih =>
    cases step with
    | item index =>
      cases plain with
      | list each =>
        rw [Value.textAt?_item] at found
        obtain ⟨w, there, found⟩ := Option.bind_eq_some_iff.mp found
        exact (ih (each w (List.mem_of_getElem? there)) found).item index
      | _ => simp [Value.textAt?, Value.at?] at found
    | field name =>
      cases plain with
      | record here each =>
        rw [Value.textAt?_field] at found
        obtain ⟨w, there, found⟩ := Option.bind_eq_some_iff.mp found
        have member := TextMap.mem_of_find? there
        exact (ih (each _ member) found).field (here _ member)
      | _ => simp [Value.textAt?, Value.at?] at found

/-! ### One entry for each leaf -/

/-- The place that a key tells behind a start. -/
def placeBehind? (start key : String) : Option Place :=
  place? (key.toList.drop start.toList.length)

theorem placeBehind?_append (start key : String) :
    placeBehind? start (start ++ key) = place? key.toList := by
  simp [placeBehind?]

/-- `map` holds one entry for each leaf of `v`: its key is `start` and the rendered place, which
is no other leaf's and can be read back from the key. -/
structure Lossless (v : Value) (start : String) (map : TextMap String) : Prop where
  distinct : map.keys.Nodup
  entries : ∀ key text, (key, text) ∈ map ↔
    ∃ place, v.textAt? place = some text ∧ start ++ render place = key
  apart : ∀ place other, (v.textAt? place).isSome → (v.textAt? other).isSome →
    start ++ render place = start ++ render other → place = other
  recovered : ∀ place, (v.textAt? place).isSome →
    placeBehind? start (start ++ render place) = some place

theorem PlainKeys.recovered {v : Value} (plain : PlainKeys v) (start : String) {place : Place}
    (isSome : (v.textAt? place).isSome) :
    placeBehind? start (start ++ render place) = some place := by
  obtain ⟨text, found⟩ := Option.isSome_iff_exists.mp isSome
  rw [placeBehind?_append, place?_render (plain.plainPlace found)]

theorem PlainKeys.apart {v : Value} (plain : PlainKeys v) (start : String) {place other : Place}
    (isSome : (v.textAt? place).isSome) (otherSome : (v.textAt? other).isSome)
    (same : start ++ render place = start ++ render other) : place = other := by
  have recovered := plain.recovered start isSome
  rw [same, plain.recovered start otherSome] at recovered
  exact (Option.some.inj recovered).symm

theorem mem_flatten {v : Value} (ordered : v.Ordered) (plain : PlainKeys v) {key text : String} :
    (key, text) ∈ flatten v ↔ ∃ place, v.textAt? place = some text ∧ render place = key := by
  rw [← (flatten_ordered v).find?_eq_some_iff, find?_flatten ordered]
  constructor
  · rintro ⟨place, last⟩
    exact ⟨place, last.leaf, last.renders⟩
  · rintro ⟨place, found, rfl⟩
    have isSome : (v.textAt? place).isSome := by simp [found]
    -- no other leaf has this key, so this one is the last that has it
    refine ⟨place, found, rfl, fun other otherSome same => .inl ?_⟩
    exact plain.apart "" otherSome isSome (by rw [same])

theorem flatten_lossless {v : Value} (ordered : v.Ordered) (plain : PlainKeys v) (start : String) :
    Lossless v start ((flatten v).withStart start) where
  distinct := ((flatten_ordered v).withStart start).nodup_keys
  entries key text := by
    have entry : (key, text) ∈ (flatten v).withStart start ↔
        ∃ inner, (inner, text) ∈ flatten v ∧ start ++ inner = key := by
      simp [TextMap.withStart]
    rw [entry]
    constructor
    · rintro ⟨inner, member, rfl⟩
      obtain ⟨place, found, rfl⟩ := (mem_flatten ordered plain).mp member
      exact ⟨place, found, rfl⟩
    · rintro ⟨place, found, rfl⟩
      exact ⟨render place, (mem_flatten ordered plain).mpr ⟨place, found, rfl⟩, rfl⟩
  apart _ _ := plain.apart start
  recovered _ := plain.recovered start

/-- Flattening a value with plain keys keeps every leaf apart, and so does the source that takes
up the flat map under its own start. -/
theorem plain_keys_lossless (v : Value) (ordered : v.Ordered) (plain : PlainKeys v)
    (source : Source) :
    Lossless v "" (flatten v) ∧ Lossless v source.start (source.adopt (flatten v)).properties := by
  have unprefixed : (flatten v).withStart "" = flatten v := by simp [TextMap.withStart]
  exact ⟨unprefixed ▸ flatten_lossless ordered plain "",
    flatten_lossless ordered plain source.start⟩

/-- A list and an object with members of both kinds; a closing bracket in a key does no harm. -/
def cluster : Value :=
  .ofFields [("0]", .text "x"), ("db", .ofFields [("port", .number (.int 5432))]),
    ("hosts", .list [.text "a", .ofFields [("name", .text "b")]])]

theorem cluster_lossless :
    let source : Source := ⟨⟨"database", .renew⟩, "app.", .retainOnError, [], .uninitialized, 0, 1⟩
    cluster.Ordered ∧ PlainKeys cluster ∧
      (source.adopt (flatten cluster)).properties.keys =
        ["app.0]", "app.db.port", "app.hosts[0]", "app.hosts[1].name"] ∧
      placeBehind? "app." "app.hosts[1].name" = some [.field "hosts", .item 1, .field "name"] := by
  intro source
  have ordered : cluster.Ordered := by simp [cluster, Value.ofFields_ordered]
  have port : PlainKeys (.ofFields [("port", .number (.int 5432))]) :=
    ofFields_plain (by simp [PlainFields, PlainKey]) (by simp)
  have name : PlainKeys (.ofFields [("name", .text "b")]) :=
    ofFields_plain (by simp [PlainFields, PlainKey]) (by simp)
  have plain : PlainKeys cluster :=
    ofFields_plain (by simp [PlainFields, PlainKey, -Prod.forall]) (by simp [port, name])
  have lossless := (plain_keys_lossless cluster ordered plain source).2
  exact ⟨ordered, plain, by decide, lossless.recovered [.field "hosts", .item 1, .field "name"] rfl⟩

end LeaseKeeper.Flatten
