import DeskScript.Proofs.Documents
import DeskScript.Proofs.Endings
import DeskScript.Proofs.Untouched

/-!
# Tables in files

A table that is written to a cache file is there when the file is read again, and no other file is
touched by that. What is looked up in such a table is a value that stands for the document kept there.
-/

namespace DeskScript

/-! ### Members of tables -/

variable {j : Json} {s : Store}

namespace Json

theorem lookup_member {β : Type} (name : String) (m : String × β) (members : List (String × β)) :
    (m :: members).lookup name = if name = m.1 then some m.2 else members.lookup name := by
  rw [List.lookup_cons]
  split
  next same => rw [if_pos (beq_iff_eq.mp same)]
  next other => rw [if_neg (beq_eq_false_iff_ne.mp other)]

theorem lookup_setMember (key name : String) (j : Json) (members : List (String × Json)) :
    (setMember key j members).lookup name = if name = key then some j else members.lookup name := by
  induction members with
  | nil => rw [setMember, lookup_member]
  | cons m members ih =>
    rw [setMember]
    split
    next here => simp only [lookup_member, here]; split <;> rfl
    next other =>
      simp only [lookup_member, ih]
      grind

variable {members : List (String × Json)} {key : String}

theorem mem_setMember {m : String × Json} (member : m ∈ setMember key j members) :
    m = (key, j) ∨ m ∈ members := by
  induction members with
  | nil => exact .inl (List.mem_singleton.mp member)
  | cons n members ih =>
    obtain ⟨k, v⟩ := n
    rw [setMember] at member
    split at member
    next here =>
      subst here
      exact (List.mem_cons.mp member).imp_right (List.mem_cons_of_mem _)
    next other =>
      rcases List.mem_cons.mp member with rfl | later
      · exact .inr List.mem_cons_self
      · exact (ih later).imp_right (List.mem_cons_of_mem _)

theorem nodup_setMember (distinct : (members.map Prod.fst).Nodup) :
    ((setMember key j members).map Prod.fst).Nodup := by
  induction members with
  | nil => exact List.nodup_singleton key
  | cons n members ih =>
    obtain ⟨k, v⟩ := n
    obtain ⟨fresh, rest⟩ := List.nodup_cons.mp distinct
    rw [setMember]
    split
    next here => exact distinct
    next other =>
      refine List.nodup_cons.mpr ⟨fun known => ?_, ih rest⟩
      obtain ⟨m, member, same⟩ := List.mem_map.mp known
      rcases mem_setMember member with rfl | old
      · exact other same.symm
      · exact fresh (List.mem_map.mpr ⟨m, old, same⟩)

/-- A readable document may be put into a readable table. -/
theorem Readable.setMember {n : ℕ} (table : Readable (n + 1) (.object members))
    (whole : Text.Whole key) (value : Readable n j) :
    Readable (n + 1) (.object (Json.setMember key j members)) := by
  cases table with
  | object keys each distinct =>
    refine .object (fun m member => ?_) (fun m member => ?_) (nodup_setMember distinct)
    · rcases mem_setMember member with rfl | old
      · exact whole
      · exact keys m old
    · rcases mem_setMember member with rfl | old
      · exact value
      · exact each m old

end Json

/-! ### Documents in the store -/

namespace Store

mutual

/-- A value stands for a document, with lists of the store for arrays. -/
def Stands (s : Store) : Json → Value → Prop
  | .null, v => v = .null
  | .bool b, v => v = .bool b
  | .int i, v => v = .int i
  | .float x, v => Number.isNaN x = false → v = .float x
  | .text t, v => v = .text t
  | .array items, v => ∃ cell < s.cells.size, v = .list cell ∧ StandsEach s items (s.get cell)
  | .object members, v => ∃ id entries, v = .dict id entries ∧ StandsUnder s members entries

def StandsEach (s : Store) : List Json → List Value → Prop
  | [], values => values = []
  | item :: items, values =>
    ∃ v rest, values = v :: rest ∧ Stands s item v ∧ StandsEach s items rest

def StandsUnder (s : Store) : List (String × Json) → List (Value × Value) → Prop
  | [], entries => entries = []
  | (key, item) :: members, entries =>
    ∃ v rest, entries = (.text key, v) :: rest ∧ Stands s item v ∧ StandsUnder s members rest

end

theorem Extends.get {s' : Store} (extends' : s.Extends s') {cell : ℕ} (there : cell < s.cells.size) :
    s'.get cell = s.get cell := by
  rw [Store.get, Store.get, Store.cell, Store.cell, extends' cell there]

mutual

theorem Stands.mono {s s' : Store} (later : s.Extends s') :
    ∀ {j : Json} {v : Value}, s.Stands j v → s'.Stands j v
  | .null, _, stands | .bool _, _, stands | .int _, _, stands | .text _, _, stands => by
    rw [Stands] at stands ⊢
    exact stands
  | .float _, _, stands => by
    rw [Stands] at stands ⊢
    exact stands
  | .array items, _, stands => by
    rw [Stands] at stands ⊢
    obtain ⟨cell, there, same, each⟩ := stands
    refine ⟨cell, Nat.lt_of_lt_of_le there later.size_le, same, ?_⟩
    rw [later.get there]
    exact StandsEach.mono later each
  | .object members, _, stands => by
    rw [Stands] at stands ⊢
    obtain ⟨id, entries, same, each⟩ := stands
    exact ⟨id, entries, same, StandsUnder.mono later each⟩

theorem StandsEach.mono {s s' : Store} (later : s.Extends s') :
    ∀ {items : List Json} {values : List Value}, s.StandsEach items values → s'.StandsEach items values
  | [], _, stands => by
    rw [StandsEach] at stands ⊢
    exact stands
  | _ :: _, _, stands => by
    rw [StandsEach] at stands ⊢
    obtain ⟨v, rest, same, first, others⟩ := stands
    exact ⟨v, rest, same, Stands.mono later first, StandsEach.mono later others⟩

theorem StandsUnder.mono {s s' : Store} (later : s.Extends s') :
    ∀ {members : List (String × Json)} {entries : List (Value × Value)},
      s.StandsUnder members entries → s'.StandsUnder members entries
  | [], _, stands => by
    rw [StandsUnder] at stands ⊢
    exact stands
  | (_, _) :: _, _, stands => by
    rw [StandsUnder] at stands ⊢
    obtain ⟨v, rest, same, first, others⟩ := stands
    exact ⟨v, rest, same, Stands.mono later first, StandsUnder.mono later others⟩

end

mutual

/-- A document that has been loaded is stood for by the value it has become. -/
theorem stands_load : ∀ (s : Store) (j : Json), (s.load j).2.Stands j (s.load j).1
  | s, .null | s, .bool _ | s, .int _ | s, .text _ => by rw [load, Stands]
  | s, .float x => by
    rw [load, Stands]
    intro number
    rw [number, if_neg Bool.false_ne_true]
  | s, .array items => by
    have each := stands_loadItems s items
    have fresh : (s.loadItems items).2.cells.size < ((s.loadItems items).2.alloc (s.loadItems items).1).2.cells.size := by
      simp [alloc]
    rw [load, Stands]
    refine ⟨_, fresh, rfl, ?_⟩
    have content : ((s.loadItems items).2.alloc (s.loadItems items).1).2.get (s.loadItems items).2.cells.size =
        (s.loadItems items).1 := by
      simp [alloc, get, cell]
    rw [content]
    exact each.mono (extends_alloc _ _)
  | s, .object members => by
    have each := stands_loadMembers s members
    have later : (s.loadMembers members).2.Extends
        ((s.loadMembers members).2.newDict (s.loadMembers members).1).2 := extends_of_cells rfl
    rw [load, Stands]
    exact ⟨_, _, rfl, each.mono later⟩

theorem stands_loadItems : ∀ (s : Store) (items : List Json),
    (s.loadItems items).2.StandsEach items (s.loadItems items).1
  | s, [] => by rw [loadItems, StandsEach]
  | s, item :: rest => by
    rw [loadItems, StandsEach]
    exact ⟨_, _, rfl, (stands_load s item).mono (sound_none.mp (sound_loadItems _ rest (sound_none.mpr (.refl _))).2), stands_loadItems _ rest⟩

theorem stands_loadMembers : ∀ (s : Store) (members : List (String × Json)),
    (s.loadMembers members).2.StandsUnder members (s.loadMembers members).1
  | s, [] => by rw [loadMembers, StandsUnder]
  | s, (key, item) :: rest => by
    rw [loadMembers, StandsUnder]
    exact ⟨_, _, rfl, (stands_load s item).mono (sound_none.mp (sound_loadMembers _ rest (sound_none.mpr (.refl _))).2), stands_loadMembers _ rest⟩

end

/-- The value under a key stands for the document under it. -/
theorem StandsUnder.under? {members : List (String × Json)} {entries : List (Value × Value)}
    (stands : s.StandsUnder members entries) (key : String) :
    (members.lookup key = none ∧ Value.under? entries (.text key) = none) ∨
      ∃ j v, members.lookup key = some j ∧ Value.under? entries (.text key) = some v ∧ s.Stands j v := by
  induction members generalizing entries with
  | nil =>
    rw [StandsUnder] at stands
    subst stands
    exact .inl ⟨rfl, rfl⟩
  | cons m members ih =>
    obtain ⟨name, j⟩ := m
    rw [StandsUnder] at stands
    obtain ⟨v, rest, rfl, first, others⟩ := stands
    by_cases same : name = key
    · subst same
      exact .inr ⟨j, v, by simp, by simp [Value.under?, Value.sameKey], first⟩
    · have skip : Value.under? ((.text name, v) :: rest) (.text key) = Value.under? rest (.text key) := by
        simp [Value.under?, Value.sameKey, same]
      rw [skip, Json.lookup_member, if_neg (Ne.symm same)]
      exact ih others

theorem StandsUnder.field {members : List (String × Json)} {entries : List (Value × Value)}
    (stands : s.StandsUnder members entries) (key : String) (there : members.lookup key = some j) :
    ∃ v, Value.under? entries (.text key) = some v ∧ s.Stands j v := by
  rcases stands.under? key with ⟨missing, -⟩ | ⟨j', v, found, within, stands⟩
  · cases there.symm.trans missing
  · cases there.symm.trans found
    exact ⟨v, within, stands⟩

/-- Whole numbers are what they are in a list, too. -/
theorem StandsEach.ints {s : Store} {ns : List Int} {values : List Value}
    (stands : s.StandsEach (ns.map .int) values) : values = ns.map .int := by
  induction ns generalizing values with
  | nil =>
    rw [List.map_nil, StandsEach] at stands
    exact stands
  | cons n ns ih =>
    rw [List.map_cons, StandsEach] at stands
    obtain ⟨v, rest, rfl, first, others⟩ := stands
    rw [Stands] at first
    rw [first, ih others, List.map_cons]

end Store

/-! ### Files in the working directory -/

namespace Files

/-- A path that is the name of a file in the working directory. -/
structure Plain (path : String) : Prop where
  parts : (parts path).toOption = some ([], [path])
  name : path ≠ "" ∧ path ≠ "." ∧ path ≠ ".."
  short : Text.byteLength path ≤ nameLimit

/-- The working directory is a directory, and so is nothing at a path. -/
structure Open (f : Files) (path : String) : Prop where
  base : f.lookup? [] = none
  vacant : f.hasDirectory [path] = false

variable {f : Files} {path : String}

theorem Plain.parts_eq (plain : Plain path) : Files.parts path = .ok ([], [path]) := by
  have found := plain.parts
  cases result : Files.parts path with
  | error fault =>
    rw [result] at found
    cases found
  | ok parts =>
    rw [result] at found
    cases found
    rfl

theorem enter_base (base : f.lookup? [] = none) : f.enter [] = .ok () := by
  simp [enter, base, hasDirectory, isAncestor]

theorem place_plain (plain : Plain path) (base : f.lookup? [] = none) : f.place path = .ok [path] := by
  obtain ⟨empty, dot, dots⟩ := plain.name
  rw [place, plain.parts_eq]
  simp [bind, Except.bind, follow, enter_base base, empty, dot, dots, Nat.not_lt.mpr plain.short]

theorem has_iff (plain : Plain path) (opened : f.Open path) : f.has path = (f.lookup? [path]).isSome := by
  simp [has, get?, isDirectory, place_plain plain opened.base, Except.toOption, opened.vacant]

theorem target_plain (plain : Plain path) (opened : f.Open path) : f.target path = .ok [path] := by
  obtain ⟨empty, dot, dots⟩ := plain.name
  simp [target, plain.parts_eq, Except.mapError, bind, Except.bind, empty, dot, dots, follow,
    enter_base opened.base, Nat.not_lt.mpr plain.short, opened.vacant, pure, Except.pure]

/-- Putting a content at a place leaves all others as they are. -/
theorem lookup?_put (names names' : Names) (c : Content) :
    (f.put names c).lookup? names' = if names' = names then some c else f.lookup? names' := by
  have replaced (entries : List (Names × Content)) :
      (entries.map fun e => if e.1 = names then (names, c) else e).lookup names' =
        if names' = names then (entries.lookup names).map fun _ => c else entries.lookup names' := by
    induction entries with
    | nil => simp
    | cons e entries ih =>
      obtain ⟨place, content⟩ := e
      rw [List.map_cons]
      by_cases here : place = names
      · subst here
        by_cases same : names' = place
        · subst same
          simp
        · rw [if_pos rfl, List.lookup_cons, beq_false_of_ne same, ih, if_neg same, if_neg same,
            List.lookup_cons, beq_false_of_ne same]
      · rw [if_neg here, List.lookup_cons, List.lookup_cons, List.lookup_cons, ih,
          beq_false_of_ne (Ne.symm here)]
        by_cases same : names' = place
        · subst same
          simp [here]
        · simp [beq_false_of_ne same]
  rw [put, lookup?, lookup?]
  split
  next known =>
    rw [replaced]
    split
    · obtain ⟨e, member, here⟩ := List.any_eq_true.mp known
      obtain ⟨content, found⟩ : ∃ content, f.entries.lookup names = some content := by
        rw [← Option.isSome_iff_exists, List.lookup_isSome_iff]
        exact ⟨e, member, beq_iff_eq.mpr (of_decide_eq_true here).symm⟩
      rw [found, Option.map_some]
    · rfl
  next fresh =>
    rw [List.lookup_append]
    split
    next same =>
      subst same
      have none : f.entries.lookup names' = none := by
        rw [List.lookup_eq_none_iff]
        intro e member
        refine bne_iff_ne.mpr fun here => fresh ?_
        exact List.any_eq_true.mpr ⟨e, member, decide_eq_true here.symm⟩
      rw [none, List.lookup_cons, beq_self_eq_true]
      rfl
    next other => rw [List.lookup_cons, beq_false_of_ne other, List.lookup_nil, Option.or_none]

theorem hasDirectory_put (name name' : String) (c : Content) :
    (f.put [name] c).hasDirectory [name'] = f.hasDirectory [name'] := by
  have same : ((f.put [name] c).entries.any fun e => [name'].isPrefixOf e.1 && [name'].length < e.1.length) =
      f.entries.any fun e => [name'].isPrefixOf e.1 && [name'].length < e.1.length := by
    rw [put]
    split
    · rw [List.any_map]
      congr 1
      funext e
      by_cases here : e.1 = [name] <;> simp [here]
    · simp
  rw [hasDirectory, hasDirectory, same]

theorem Open.put {name : String} (opened : f.Open path) (c : Content) : (f.put [name] c).Open path := by
  refine ⟨?_, ?_⟩
  · rw [lookup?_put, if_neg (List.cons_ne_nil name []).symm]
    exact opened.base
  · rw [hasDirectory_put]
    exact opened.vacant

theorem write_plain (plain : Plain path) (opened : f.Open path) (s : String) :
    f.write path s = .ok (f.put [path] (.text s)) := by
  rw [write, target_plain plain opened]
  rfl

/-- The table in a file of the working directory. Where there is no file the table is empty. -/
structure Table (f : Files) (path : String) (members : List (String × Json)) : Prop where
  opened : f.Open path
  content : (f.lookup? [path] = none ∧ members = []) ∨
    ∃ s, f.lookup? [path] = some (.text s) ∧
      Json.read (String.ofList (unixLines s.toList)) = .ok (.object members)

theorem Table.put_other {members : List (String × Json)} (table : f.Table path members) {name : String}
    (other : path ≠ name) (c : Content) : (f.put [name] c).Table path members := by
  refine ⟨table.opened.put c, ?_⟩
  rw [lookup?_put, if_neg fun same => other (List.cons.inj same).1]
  exact table.content

/-- A table that has been written is there. -/
theorem Open.table_put (opened : f.Open path) {n : ℕ} {members : List (String × Json)}
    (readable : Json.Readable n (.object members)) (deep : n ≤ Json.levelLimit) :
    (f.put [path] (.text (Json.object members).write)).Table path members := by
  refine ⟨opened.put _, .inr ⟨_, by rw [lookup?_put, if_pos rfl], ?_⟩⟩
  rw [Json.write, unixLines_eq_self (readable.not_mem 0), String.ofList_toList]
  exact Json.read_write readable deep

end Files

theorem Op.reaches_ask {α : Type} {f : Store → Except Error α} {b : Bench} {a : α}
    (answer : f b.store = .ok a) : (Op.ask f).Reaches b (pure a) b := by
  refine .step ?_
  change Routine.Reaches (liftM (f b.store)) b _ b
  rw [answer]
  exact .here

/-! ### Tables in the caches -/

namespace Cache

open Files

theorem plain_path (kind : CacheKind) : Plain kind.path := by
  cases kind <;> exact ⟨by decide +kernel, by decide +kernel, by decide +kernel⟩

theorem plain_regionsPath : Plain regionsPath :=
  ⟨by decide +kernel, by decide +kernel, by decide +kernel⟩

variable {d : Desk} {path : String} {members : List (String × Json)}

theorem reaches_readDocument (plain : Plain path) (base : d.files.lookup? [] = none) {s : String}
    (found : d.files.lookup? [path] = some (.text s))
    (read : Json.read (String.ofList (unixLines s.toList)) = .ok j) :
    (readDocument path).Reaches d (pure j) d := by
  have text : d.files.read path = .ok (String.ofList (unixLines s.toList)) := by
    rw [Files.read, place_plain plain base]
    simp only [found]
  refine .step ?_
  change Routine.Reaches (liftM (d.files.read path) >>= fun s => liftM (document s)) d _ d
  rw [text]
  change Routine.Reaches (liftM (document (String.ofList (unixLines s.toList)))) d _ d
  rw [document, read]
  exact .here

/-- The table in a cache file is loaded. -/
theorem reaches_load (kind : CacheKind) (plain : Plain path) (table : d.files.Table path members) :
    (load kind path).Reaches d (pure (.object members)) d := by
  refine .step ?_
  change Routine.Reaches (if d.files.has path then _ else _) d _ d
  rw [has_iff plain table.opened]
  rcases table.content with ⟨missing, rfl⟩ | ⟨s, found, read⟩
  · rw [missing]
    exact .here
  · rw [found]
    exact (reaches_readDocument plain table.opened.base found read).rescue _

theorem reaches_loadRegions (table : d.files.Table regionsPath members) :
    loadRegions.Reaches d (pure (.object members)) d := by
  refine .step ?_
  change Routine.Reaches (if d.files.has regionsPath then _ else _) d _ d
  rw [has_iff plain_regionsPath table.opened]
  rcases table.content with ⟨missing, rfl⟩ | ⟨s, found, read⟩
  · rw [missing]
    exact .here
  · rw [found]
    exact reaches_readDocument plain_regionsPath table.opened.base found read

/-- A document is written to a cache file. -/
theorem reaches_writeDocument (plain : Plain path) (opened : d.files.Open path) (j : Json) :
    (writeDocument path j).Reaches d (pure ())
      { d with files := d.files.put [path] (.text j.write) } := by
  refine .step ?_
  change Routine.Reaches (liftM (d.files.write path j.write) >>= fun files =>
    modify fun d => { d with files }) d _ _
  rw [write_plain plain opened]
  exact .step .here

theorem reaches_save (kind : CacheKind) (plain : Plain path) (opened : d.files.Open path) (j : Json) :
    (save kind path j).Reaches d (pure ())
      { d with files := d.files.put [path] (.text j.write) } :=
  (reaches_writeDocument plain opened j).rescue _

/-- An entry is added to the table in a cache file. -/
theorem reaches_store (kind : CacheKind) (table : d.files.Table kind.path members) (key : String)
    (value : Json) :
    (store kind key value).Reaches d (pure ()) { d with
      files := d.files.put [kind.path] (.text (Json.object (Json.setMember key value members)).write) } := by
  refine ((reaches_load kind (plain_path kind) table).bind _).trans ?_
  exact reaches_save kind (plain_path kind) table.opened _

/-- What is looked up in a table stands for the document under the key. -/
theorem reaches_lookup? (members : List (String × Json)) (key : String) (b : Bench) :
    ∃ (found : Option Value) (s : Store), b.store.Extends s ∧
      (lookup? (.object members) key).Reaches b (pure found) { b with store := s } ∧
      ((members.lookup key = none ∧ found = none) ∨
        ∃ j v, members.lookup key = some j ∧ found = some v ∧ s.Stands j v) := by
  have stands := Store.stands_load b.store (.object members)
  have later := Store.extends_load b.store (.object members)
  rw [Store.Stands] at stands
  obtain ⟨id, entries, value, under⟩ := stands
  generalize loaded : b.store.load (.object members) = result at later value under
  obtain ⟨v, s⟩ := result
  cases value
  have start : (lookup? (.object members) key).Reaches b
      (do
        if ← Op.ask fun s => s.contains (.dict id entries) key then
          return some (← Op.ask fun s => s.entry (.dict id entries) key)
        else return none) { b with store := s } := by
    refine .step ?_
    simp only [loaded]
    exact .here
  rcases under.under? key with ⟨missing, without⟩ | ⟨j, v, found, within, stands⟩
  · have contains : s.contains (.dict id entries) key = .ok false := by
      rw [Store.contains, without]
      rfl
    have asked : (Op.ask fun s => s.contains (.dict id entries) key).Reaches { b with store := s }
        (pure false) { b with store := s } := Op.reaches_ask contains
    exact ⟨none, s, later, start.trans (asked.bind _), .inl ⟨missing, rfl⟩⟩
  · have contains : s.contains (.dict id entries) key = .ok true := by
      rw [Store.contains, within]
      rfl
    have entry : s.entry (.dict id entries) key = .ok v := by
      rw [Store.entry, Store.entryAt, within]
    have asked : (Op.ask fun s => s.contains (.dict id entries) key).Reaches { b with store := s }
        (pure true) { b with store := s } := Op.reaches_ask contains
    have taken : (do return some (← Op.ask fun s => s.entry (.dict id entries) key) : Op (Option Value)).Reaches
        { b with store := s } (pure (some v)) { b with store := s } :=
      Routine.Reaches.bind (Op.reaches_ask entry) _
    exact ⟨some v, s, later, start.trans ((asked.bind _).trans taken), .inr ⟨j, v, found, rfl, stands⟩⟩

end Cache

end DeskScript
