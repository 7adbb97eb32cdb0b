import DeskScript.Proofs.Untouched

/-!
# What the machine does with lists and signals

No operation of the machine makes a signal but the one that is asked to. From a store that is free of
banned signals every other operation on free values leads to such a store, whether it fails or not,
and to a free result. Of all built-ins only three reach into a list that is there already: every other
operation leaves all lists as they are. None of them blames a tree.
-/

namespace DeskScript

open Routine Syntax

/-! ### What results hold -/

/-- Things that hold values, and what it means that none of these is a banned signal. -/
class Contents (α : Type) where
  Free (banned : SignalKind → Bool) : α → Prop

namespace Contents

variable {α : Type} {banned : SignalKind → Bool}

instance (priority := low) plain (α : Type) : Contents α := ⟨fun _ _ => True⟩
instance : Contents Value := ⟨Value.Free⟩
instance : Contents Bench := ⟨fun banned b => b.store.Free banned⟩
instance : Contents Ocr.Sighting := ⟨fun banned s => s.text.Free banned⟩
instance : Contents Ocr.Finding := ⟨fun banned f => f.text.Free banned⟩
instance [Contents α] : Contents (List α) := ⟨fun banned l => ∀ a ∈ l, Free banned a⟩
instance [Contents α] : Contents (Array α) := ⟨fun banned l => ∀ a ∈ l, Free banned a⟩
instance [Contents α] : Contents (Option α) := ⟨fun banned o => ∀ a, o = some a → Free banned a⟩
instance [Contents α] : Contents (Except Error α) := ⟨fun banned x => ∀ a, x = .ok a → Free banned a⟩

/-- Things that hold no values. -/
class Plain (α : Type) [Contents α] : Prop where
  free (banned : SignalKind → Bool) (a : α) : Free banned a

instance : @Plain α (plain α) := ⟨fun _ _ => trivial⟩
instance [Contents α] [Plain α] : Plain (List α) := ⟨fun banned _ a _ => Plain.free banned a⟩
instance [Contents α] [Plain α] : Plain (Option α) := ⟨fun banned _ a _ => Plain.free banned a⟩
instance [Contents α] [Plain α] : Plain (Except Error α) := ⟨fun banned _ a _ => Plain.free banned a⟩

@[grind =] theorem free_plain [Contents α] [Plain α] (a : α) : Free banned a ↔ True :=
  ⟨fun _ => trivial, fun _ => Plain.free banned a⟩
@[grind =] theorem free_value (v : Value) : Free banned v ↔ v.Free banned := .rfl
@[grind =] theorem free_bench (b : Bench) : Free banned b ↔ b.store.Free banned := .rfl
@[grind =] theorem free_sighting (s : Ocr.Sighting) : Free banned s ↔ s.text.Free banned := .rfl
@[grind =] theorem free_finding (f : Ocr.Finding) : Free banned f ↔ f.text.Free banned := .rfl
@[grind =] theorem free_list [Contents α] (l : List α) : Free banned l ↔ ∀ a ∈ l, Free banned a := .rfl
@[grind =] theorem free_cons [Contents α] (a : α) (l : List α) :
    Free banned (a :: l) ↔ Free banned a ∧ Free banned l := List.forall_mem_cons
@[grind =] theorem free_array [Contents α] (l : Array α) : Free banned l ↔ ∀ a ∈ l, Free banned a := .rfl
@[grind =] theorem free_option [Contents α] (o : Option α) :
    Free banned o ↔ ∀ a, o = some a → Free banned a := .rfl
@[grind =] theorem free_except [Contents α] (x : Except Error α) :
    Free banned x ↔ ∀ a, x = .ok a → Free banned a := .rfl

end Contents

open Contents (Free)

/-- A routine that keeps an invariant whatever comes from the console, and whose result is as it
should be. -/
def Routine.Keeps {σ α : Type} (inv : σ → Prop) (post : α → Prop) (r : Routine σ α) : Prop :=
  r.Obeys inv (fun _ => True) post

theorem Routine.Keeps.run {σ α : Type} {inv : σ → Prop} {post : α → Prop} {r : Routine σ α}
    (keeps : r.Keeps inv post) {s : σ} (holds : inv s) (c : Console) :
    ∃ result s' c', r.run (s, c) = ending result (s', c') ∧ inv s' ∧ ∀ a, result = .ok a → post a := by
  obtain ⟨result, s', c', ran, holds', -, fine⟩ := Obeys.run keeps trivial holds c
  exact ⟨result, s', c', ran, holds', fine⟩

/-- An operation that keeps the store free of banned signals, and whose result is as it should be. -/
def Op.Keeps {α : Type} (banned : SignalKind → Bool) (op : Op α) (post : α → Prop) : Prop :=
  Routine.Keeps (fun bench : Bench => bench.store.Free banned) post op

/-- All lists of a store are there on a bench, as they were. -/
def Bench.Extends (base : Store) (bench : Bench) : Prop := base.Extends bench.store

/-- An operation that blames no tree and keeps a condition on the bench. -/
abbrev Op.Mild {α : Type} (inv : Bench → Prop) (op : Op α) : Prop := Routine.Mild inv op

/-- An operation that blames no tree and keeps the store sound, and whose result is as it should be. -/
abbrev Op.Guards {α : Type} (base : Store) (banned : SignalKind → Bool) (post : α → Prop) (op : Op α) : Prop :=
  op.Obeys (fun bench : Bench => bench.store.Sound base banned) (fun e => e.blamesTree = false) post

/-- An operation that blames no tree and keeps the store sound, and that gives no banned signal. -/
def Op.Clean {α : Type} [Contents α] (base : Store) (banned : SignalKind → Bool) (op : Op α) : Prop :=
  op.Guards base banned (Free banned)

theorem Op.Guards.mild {α : Type} {base : Store} {post : α → Prop} {op : Op α}
    (guards : op.Guards base (fun _ => false) post) : op.Mild (Bench.Extends base) :=
  guards.mono (fun _ => Store.sound_none.symm) (fun _ => id) fun _ _ => trivial

/-- An action that blames no tree and gives no banned signal. -/
def Action.Clean {α : Type} [Contents α] (banned : SignalKind → Bool) (a : Action α) : Prop :=
  a.Obeys (fun _ => True) (fun e => e.blamesTree = false) (Free banned)

variable {α β : Type} [Contents α] {base : Store} {banned : SignalKind → Bool} {v a b : Value} {q : Query}

namespace Action

@[grind ←] theorem Clean.bind [Contents β] {x : Action β} {f : β → Action α} (first : x.Clean banned)
    (rest : ∀ b, Free banned b → (f b).Clean banned) : (x >>= f).Clean banned :=
  Obeys.bind first rest

@[grind =] theorem clean_pure (a : α) : (pure a : Action α).Clean banned ↔ Free banned a := .rfl

@[grind =] theorem clean_throw (e : Error) : (throw e : Action α).Clean banned ↔ e.blamesTree = false := .rfl

@[grind ←] theorem clean_lift {x : Except Error α} (innocent : Innocent x) (free : Free banned x) :
    (liftM x : Action α).Clean banned := by
  cases x with
  | error e => exact innocent
  | ok a => exact free a rfl

@[grind ←] theorem clean_plain [Contents.Plain α] {a : Action α} (mild : a.Mild) : a.Clean banned :=
  mild.mono (fun _ => .rfl) (fun _ innocent => innocent) fun a _ => Contents.Plain.free banned a

end Action

namespace Op

@[grind ←] theorem Clean.bind [Contents β] {x : Op β} {f : β → Op α} (first : x.Clean base banned)
    (rest : ∀ b, Free banned b → (f b).Clean base banned) : (x >>= f).Clean base banned :=
  Obeys.bind first rest

@[grind =] theorem clean_pure (a : α) : (pure a : Op α).Clean base banned ↔ Free banned a := .rfl

@[grind =] theorem clean_throw (e : Error) : (throw e : Op α).Clean base banned ↔ e.blamesTree = false := .rfl

@[grind ←] theorem clean_action {a : Action α} (clean : a.Clean banned) : (liftM a : Op α).Clean base banned :=
  obeys_action clean (fun _ _ => trivial) fun _ _ sound _ => sound

@[grind ←] theorem clean_lift {x : Except Error α} (innocent : Innocent x) (free : Free banned x) :
    (liftM x : Op α).Clean base banned :=
  clean_action (Action.clean_lift innocent free)

@[grind ←] theorem clean_get : (get : Op Bench).Clean base banned := fun _ sound => ⟨sound, sound.free⟩

@[grind ←] theorem clean_ask {f : Store → Except Error α} (innocent : ∀ s, Innocent (f s))
    (gives : ∀ s, s.Free banned → Free banned (f s)) : (ask f).Clean base banned :=
  Clean.bind clean_get fun bench free => clean_lift (innocent bench.store) (gives bench.store free)

@[grind ←] theorem clean_modifyStore {f : Store → Store} (empty : base = {})
    (keeps : ∀ s, s.Free banned → (f s).Free banned) : (modifyStore f).Clean base banned := by
  subst empty
  exact fun bench sound => ⟨Store.sound_empty.mpr (keeps bench.store sound.free), trivial⟩

theorem clean_templates (directory : String) :
    (modify fun m => { m with templates := directory } : Op Unit).Clean base banned :=
  fun _ sound => ⟨sound, trivial⟩

@[grind ←] theorem clean_computed (free : v.Free banned) : (computed v).Clean base banned := by
  intro bench sound
  obtain ⟨isFree, same⟩ := Store.fresh_free bench.store v free
  exact ⟨sound.of_cells same, isFree⟩

@[grind ←] theorem clean_newList {items : List Value} (inside : ∀ v ∈ items, v.Free banned) :
    (newList items).Clean base banned :=
  fun _ sound => ⟨sound.alloc inside, .atom rfl⟩

@[grind ←] theorem clean_newDocument (j : Json) : (newDocument j).Clean base banned := by
  intro bench sound
  obtain ⟨isFree, sound'⟩ := Store.sound_load bench.store j sound
  exact ⟨sound', isFree⟩

@[grind ←] theorem clean_shown (v : Value) : (shown v).Clean base banned :=
  clean_ask (fun s => s.innocent_shown v) fun _ _ => Contents.Plain.free banned _

@[grind ←] theorem clean_truth (v : Value) : (truth v).Clean base banned :=
  clean_ask (fun _ => trivial) fun _ _ => Contents.Plain.free banned _

@[grind ←] theorem clean_mapM {items : List β} {f : β → Op α} (each : ∀ b ∈ items, (f b).Clean base banned) :
    (items.mapM f).Clean base banned :=
  mapM_keeps (fun _ all => all) fun b member _ rest => Clean.bind (each b member) rest

@[grind ←] theorem clean_optionMapM {item : Option β} {f : β → Op α}
    (each : ∀ b ∈ item, (f b).Clean base banned) : (item.mapM f).Clean base banned := by
  cases item with
  | none => exact nofun
  | some b => exact Clean.bind (each b rfl) fun a free _ same => Option.some.inj same ▸ free

@[grind ←] theorem clean_filterMapM {items : List β} {f : β → Op (Option α)}
    (each : ∀ b ∈ items, (f b).Clean base banned) : (items.filterMapM f).Clean base banned :=
  filterMapM_keeps (fun _ all => all) fun b member _ rest => Clean.bind (each b member) rest

end Op

/-! ### Values -/

@[grind =] theorem Value.isAtom_eq (v : Value) : v.isAtom =
    match v with
    | .tuple .. | .set _ | .dict .. | .signal .. => false
    | _ => true :=
  rfl

@[grind ←] theorem free_ofItems {items : List Value} (inside : ∀ v ∈ items, v.Free banned) :
    (Value.ofItems items).Free banned := .tuple inside

@[grind ←] theorem free_ofBool (b : Bool) : (Value.ofBool b).Free banned := .atom rfl

@[grind ←] theorem free_add (left : a.Free banned) (right : b.Free banned) :
    Free banned (a.add b) := fun _ => left.add right

@[grind ←] theorem free_sub (left : a.Free banned) (b : Value) : Free banned (a.sub b) :=
  fun _ => left.sub

@[grind ←] theorem free_mul (left : a.Free banned) (right : b.Free banned) :
    Free banned (a.mul b) := fun _ => left.mul right

@[grind ←] theorem free_div (a b : Value) : Free banned (a.div b) := fun _ ok => .atom (Value.div_atom ok)

@[grind ←] theorem free_mod (a b : Value) : Free banned (a.mod b) := fun _ ok => .atom (Value.mod_atom ok)

@[grind ←] theorem free_neg (v : Value) : Free banned v.neg := fun _ ok => .atom (Value.neg_atom ok)


/-! ### Operators -/

namespace Eval

theorem number_atom {l : Leaf} (ok : number l = .ok v) : v.isAtom := by
  unfold number at ok
  split at ok
  · cases ok
  · split at ok <;> cases ok <;> rfl

@[grind ←] theorem innocent_number (l : Leaf) : Innocent (number l) := by
  unfold number
  grind -linarith

@[grind ←] theorem clean_literal (text : String) : (literal text).Clean base banned := by
  intro bench sound
  have brings := Literal.brings_read text sound
  refine ⟨sound, ?_⟩
  simp only [Routine.bind]
  rcases found : Literal.read bench.store text with e | ⟨v, s⟩ <;> rw [found] at brings
  · exact brings
  · exact fun _ _ => ⟨brings.2, brings.1⟩

@[grind ←] theorem clean_add (left : a.Free banned) (right : b.Free banned) : (add a b).Clean base banned := by
  unfold add
  grind -linarith [Store.Free.get]

@[grind ←] theorem clean_multiply (left : a.Free banned) (right : b.Free banned) :
    (multiply a b).Clean base banned := by
  unfold multiply
  grind -linarith [Store.Free.get, Value.mem_repeatItems]

@[grind ←] theorem innocent_format (s : Store) (template : String) (v : Value) : Innocent (s.format template v) := by
  unfold Store.format
  grind -linarith

@[grind ←] theorem innocent_formatBytes (s : Store) (template : List UInt8) (v : Value) :
    Innocent (s.formatBytes template v) := by
  unfold Store.formatBytes
  grind -linarith

@[grind ←] theorem clean_modulo (a b : Value) : (modulo a b).Clean base banned := by
  unfold modulo
  repeat' first
    | with_reducible refine Op.Clean.bind ?_ fun _ _ => ?_
    | split
  all_goals grind -linarith

@[grind ←] theorem clean_equals (a b : Value) : (equals a b).Clean base banned := by
  unfold equals Store.equal
  grind -linarith

@[grind ←] theorem clean_operate (label : Label) (left : a.Free banned) (right : b.Free banned) :
    (operate label a b).Clean base banned := by
  unfold operate
  split <;> grind -linarith

@[grind ←] theorem clean_element {container : Value} (index : Value) (free : container.Free banned) :
    (element container index).Clean base banned := by
  unfold element
  grind -linarith [Store.Free.element]

end Eval

/-! ### Devices -/

namespace Cache

@[grind ←] theorem clean_lookup? (table : Json) (key : String) : (lookup? table key).Clean base banned := by
  unfold lookup?
  repeat' first
    | with_reducible refine Op.Clean.bind ?_ fun _ _ => ?_
    | split
  all_goals grind -linarith [Store.free_entry, Store.entry]

@[grind ←] theorem clean_hasRecording (name path : String) : (hasRecording name path).Clean base banned := by
  unfold hasRecording
  grind -linarith

end Cache

namespace Capture

@[grind ←] theorem clean_listed (values : List Value) : (listed values).Clean base banned := by
  unfold listed
  grind -linarith

@[grind ←] theorem clean_kept? (kind : CacheKind) (count : Nat) (name : String) :
    (kept? kind count name).Clean base banned := by
  unfold kept?
  repeat' first
    | with_reducible refine Op.Clean.bind ?_ fun _ _ => ?_
    | split
  all_goals grind -linarith [Store.Free.unpack]

@[grind ←] theorem clean_keep (kind : CacheKind) (noun name : String) (numbers : List Int) :
    (keep kind noun name numbers).Clean banned := by
  unfold keep
  grind -linarith

@[grind ←] theorem clean_keptOr (kind : CacheKind) (noun label : String) (count : Nat) (name : String)
    (useCache : Bool) {pointOut : Op (List Value)} (pointed : pointOut.Clean base banned) :
    (keptOr kind noun label count name useCache pointOut).Clean base banned := by
  unfold keptOr
  repeat' first
    | with_reducible refine Op.Clean.bind ?_ fun _ _ => ?_
    | split
  all_goals grind -linarith

@[grind ←] theorem clean_coordinates (name : String) (useCache : Bool) :
    (coordinates name useCache).Clean base banned := by
  refine clean_keptOr _ _ _ _ name useCache ?_
  unfold pointedPlace
  repeat' first
    | with_reducible refine Op.Clean.bind ?_ fun _ _ => ?_
    | split
  all_goals grind -linarith

@[grind ←] theorem clean_color (name : String) (useCache : Bool) : (color name useCache).Clean base banned := by
  refine clean_keptOr _ _ _ _ name useCache ?_
  unfold pointedColor
  repeat' first
    | with_reducible refine Op.Clean.bind ?_ fun _ _ => ?_
    | split
  all_goals grind -linarith

@[grind ←] theorem clean_pointedCorner (step corner : String) : (pointedCorner step corner).Clean base banned := by
  unfold pointedCorner
  repeat' with_reducible refine Op.Clean.bind ?_ fun _ _ => ?_
  all_goals grind -linarith

@[grind ←] theorem clean_pointedRegion (table : Json) (name : String) :
    (pointedRegion table name).Clean base banned := by
  unfold pointedRegion
  repeat' first
    | with_reducible refine Op.Clean.bind ?_ fun _ _ => ?_
    | split
  all_goals grind -linarith

@[grind ←] theorem clean_region (name : String) (anew : Bool) : (region name anew).Clean base banned := by
  unfold region
  repeat' first
    | with_reducible refine Op.Clean.bind ?_ fun _ _ => ?_
    | split
  all_goals grind -linarith [Store.Free.items]

end Capture

namespace Vision

@[grind ←] theorem clean_findAll (haystack shape : Shape) (threshold : Value) (scales : List Value) :
    (findAll haystack shape threshold scales).Clean base banned := by
  induction scales with
  | nil => exact nofun
  | cons scale rest ih =>
    unfold findAll
    grind -linarith

@[grind ←] theorem clean_scaleList (s : Settings) (free : s.scales.Free banned) :
    s.scaleList.Clean base banned := by
  unfold Settings.scaleList
  grind -linarith [Store.Free.items]

@[grind ←] theorem clean_findScaled (needle : Needle) (haystack : Shape) (s : Settings)
    (free : s.scales.Free banned) : (findScaled needle haystack s).Clean base banned := by
  unfold findScaled
  dsimp only
  repeat' first
    | with_reducible refine Op.Clean.bind ?_ fun _ _ => ?_
    | split
  all_goals grind -linarith

@[grind ←] theorem clean_findExamples (screen : Shape) (scale : Value) (settings : Settings)
    (free : settings.scales.Free banned) (paths : List String) :
    (findExamples screen scale settings paths).Clean base banned := by
  induction paths with
  | nil => exact nofun
  | cons path rest ih =>
    unfold findExamples
    grind -linarith

@[grind ←] theorem clean_locate (directory name : String) {r : Request} (isScale : r.scale.Free banned)
    (isScales : r.scales.Free banned) : (locate directory name r).Clean base banned := by
  unfold locate
  dsimp only
  repeat' first
    | exact clean_findExamples _ _ _ isScales _
    | with_reducible refine Op.Clean.bind ?_ fun _ _ => ?_
    | split
  all_goals grind -linarith -splitMatch

end Vision

namespace Ocr

@[grind ←] theorem clean_ofJson (j : Json) : (Sighting.ofJson j).Clean base banned := by
  unfold Sighting.ofJson
  repeat' first
    | with_reducible refine Op.Clean.bind ?_ fun _ _ => ?_
    | split
  all_goals grind -linarith [Store.Free.unpack]

@[grind ←] theorem clean_sure? (q : Query) (j : Json) : (q.sure? j).Clean base banned := by
  unfold Query.sure?
  grind -linarith

theorem text_of_finding? {store : Store} {scale : Float} {s : Sighting} {f : Finding}
    (ok : q.finding? store scale s = .ok (some f)) : f.text = s.text := by
  obtain ⟨selected, -, ok⟩ := bind_ok ok
  split at ok
  · obtain ⟨box, -, ok⟩ := bind_ok ok
    obtain ⟨corners, -, ok⟩ := bind_ok ok
    obtain ⟨sure, -, ok⟩ := bind_ok ok
    cases ok
    rfl
  · cases ok

@[grind ←] theorem free_findings {store : Store} {scale : Float} {sure : List Sighting}
    (free : ∀ s ∈ sure, s.text.Free banned) :
    Free banned (sure.filterMapM fun s => q.finding? store scale s) := by
  refine filterMapM_keeps (fun found all _ same => Except.ok.inj same ▸ all) fun s there k rest => ?_
  intro findings ok
  obtain ⟨found, here, ok⟩ := bind_ok ok
  refine rest found (fun f same => ?_) findings ok
  rw [Contents.free_finding, text_of_finding? (same ▸ here)]
  exact free s there

@[grind ←] theorem clean_look (q : Query) (scales : List Value) : (look q scales).Clean base banned := by
  induction scales with
  | nil => exact nofun
  | cons scale rest ih =>
    unfold look
    repeat' first
      | with_reducible refine Op.Clean.bind ?_ fun _ _ => ?_
      | split
    all_goals grind -linarith

@[grind ←] theorem clean_find (free : q.scale.Free banned) : (find q).Clean base banned := by
  unfold find
  grind -linarith

end Ocr

namespace Recording

@[grind ←] theorem clean_recordAs (name startName stopName : String) :
    (recordAs name startName stopName).Clean base banned := by
  unfold recordAs
  dsimp only
  repeat' with_reducible refine Op.Clean.bind ?_ fun _ _ => ?_
  all_goals grind -linarith

@[grind ←] theorem clean_opening (events : List RecordedEvent) (stopName jitter : Value) :
    (opening events stopName jitter).Clean base banned := by
  unfold opening
  repeat' with_reducible refine Op.Clean.bind ?_ fun _ _ => ?_
  all_goals grind -linarith

@[grind ←] theorem clean_playback (events : List RecordedEvent) (stopName jitter : Value) :
    (playback events stopName jitter).Clean base banned := by
  unfold playback
  repeat' first
    | with_reducible refine Op.Clean.bind ?_ fun _ _ => ?_
    | split
  all_goals grind -linarith

@[grind ←] theorem clean_eventsOf (free : v.Free banned) : (eventsOf v).Clean base banned := by
  unfold eventsOf
  grind -linarith [Store.Free.items]

@[grind ←] theorem clean_playBack (name stopName : String) : (playBack name stopName).Clean base banned := by
  unfold playBack
  repeat' first
    | with_reducible refine Op.Clean.bind ?_ fun _ _ => ?_
    | split
  all_goals grind -linarith

end Recording

namespace Chance

@[grind ←] theorem clean_uniform {low high : Value} (isLow : low.Free banned) (isHigh : high.Free banned) :
    (uniform low high).Clean banned := by
  unfold uniform
  grind -linarith

@[grind ←] theorem clean_whole (low : Value) {high : Value} (isHigh : high.Free banned) :
    (whole low high).Clean banned := by
  unfold whole
  grind -linarith

@[grind ←] theorem clean_shuffle {items : Array Value} (inside : ∀ v ∈ items, v.Free banned) :
    (shuffle items).Clean banned := by
  suffices all : ∀ n, (shuffleFirst n items).Clean banned from all _
  intro n
  induction n, items using shuffleFirst.induct with
  | case1 items => exact inside
  | case2 items => exact inside
  | case3 items n ih =>
    refine Action.Clean.bind (Action.clean_plain (mild_below _)) fun j _ => ih j ?_
    exact fun v member => inside v (Store.mem_of_mem_swapIfInBounds member)

end Chance

/-! ### Built-ins -/

namespace Builtins

/-- Arguments none of which blames a tree when it is taken. -/
def InnocentArguments (args : List Argument) : Prop := ∀ arg ∈ args, Innocent arg

@[grind =] theorem innocentArguments_cons (arg : Argument) (args : List Argument) :
    InnocentArguments (arg :: args) ↔ Innocent arg ∧ InnocentArguments args :=
  List.forall_mem_cons

variable {args : List Argument} {b : Builtin}

@[grind →] theorem InnocentArguments.of_mem {arg : Argument} (innocent : InnocentArguments args)
    (member : arg ∈ args) : Innocent arg :=
  innocent arg member

@[grind ←] theorem innocent_tableArgument (b : Builtin) (s : Store) (v : Value) (i : Nat) :
    Innocent (tableArgument b s v i) := by
  unfold tableArgument
  grind -linarith

/-- The arguments of a call on a value, given the lists. -/
def given (b : Builtin) (s : Store) (v : Value) : Except Error (List Argument) :=
  match v, s.items? v with
  | .dict .., some keys => .ok ((List.range keys.length).map (tableArgument b s v))
  | .set _, some items => .ok (items.map fun _ => .error (.kind (.notSubscriptable .set)))
  | _, some items => .ok (items.map .ok)
  | _, none => .error (.kind (.noLength v.kind))

theorem arguments_eq (b : Builtin) (v : Value) : arguments b v = Op.ask fun s => given b s v := rfl

theorem innocent_given (b : Builtin) (s : Store) (v : Value) : Innocent (given b s v) := by
  unfold given
  grind -linarith

theorem innocentArguments_given {s : Store} {v : Value} (found : given b s v = .ok args) :
    InnocentArguments args := by
  unfold given at found
  split at found
  case h_4 => cases found
  all_goals
    obtain rfl := Except.ok.inj found
    intro arg member
    obtain ⟨item, -, rfl⟩ := List.mem_map.mp member
  · exact innocent_tableArgument b s _ item
  · rfl
  · trivial

theorem free_given {s : Store} (inv : s.Free banned) (free : v.Free banned) (found : given b s v = .ok args) :
    Free banned args := by
  intro arg member w same
  unfold given at found
  split at found
  case h_4 => cases found
  all_goals
    obtain rfl := Except.ok.inj found
    obtain ⟨item, there, rfl⟩ := List.mem_map.mp member
  · unfold tableArgument at same
    split at same
    · cases same
    · exact inv.item free same
  · cases same
  · cases same
    exact inv.items? free ‹_› w there

theorem clean_arguments (b : Builtin) (free : v.Free banned) {f : List Argument → Op α}
    (rest : ∀ args, InnocentArguments args → Free banned args → (f args).Clean base banned) :
    (arguments b v >>= f).Clean base banned := by
  refine fun bench sound => ⟨sound, ?_⟩
  change (liftM (given b bench.store v) >>= f : Op α).Clean base banned
  have innocent := innocent_given b bench.store v
  cases found : given b bench.store v with
  | error e =>
    rw [found] at innocent
    exact innocent
  | ok args => exact rest args (innocentArguments_given found) (free_given sound.free free found)

@[grind ←] theorem free_taken (free : Free banned args) : Free banned (args.mapM id) := by
  refine mapM_keeps (fun found all _ same => Except.ok.inj same ▸ all) fun arg there k rest => ?_
  intro values ok
  obtain ⟨v, here, ok⟩ := bind_ok ok
  exact rest v (free arg there v here) values ok

@[grind ←] theorem innocent_optional (innocent : InnocentArguments args) (i : Nat) :
    Innocent (optional args i) := by
  unfold optional InnocentArguments at *
  grind -linarith

@[grind ←] theorem free_optional (free : Free banned args) (i : Nat) :
    Free banned (optional args i) := by
  unfold optional
  grind -linarith

@[grind ←] theorem clean_shownArgument {arg : Argument} (innocent : Innocent arg) :
    (shownArgument arg).Clean base banned := by
  cases arg with
  | error e => exact innocent
  | ok v => exact Op.clean_shown v

@[grind ←] theorem clean_shownGiven (innocent : InnocentArguments args) (i : Nat) :
    ((args[i]?).mapM shownArgument).Clean base banned :=
  Op.clean_optionMapM fun _ found => clean_shownArgument (innocent _ (List.mem_of_getElem? found))

@[grind ←] theorem clean_misuse (b : Builtin) (args : List Argument) : (misuse b args : Op α).Clean base banned :=
  rfl

@[grind ←] theorem clean_printItems (blank : String) (items : List Value) :
    (printItems blank items).Clean base banned := by
  induction items generalizing blank with
  | nil => exact trivial
  | cons v rest ih =>
    unfold printItems
    grind -linarith

@[grind ←] theorem clean_print (v : Value) : (print v).Clean base banned := by
  unfold print
  grind -linarith

@[grind ←] theorem clean_wait {duration range : Value} (isDuration : duration.Free banned)
    (isRange : range.Free banned) : (wait duration range).Clean base banned := by
  unfold wait
  repeat' first
    | with_reducible refine Op.Clean.bind ?_ fun _ _ => ?_
    | split
  all_goals grind -linarith [Store.Free.item]

@[grind ←] theorem clean_append (empty : base = {}) {target item : Value} (isTarget : target.Free banned)
    (isItem : item.Free banned) : (append target item).Clean base banned := by
  unfold append
  grind -linarith [Store.Free.push]

@[grind ←] theorem clean_pop (empty : base = {}) (target : Value) {index : Option Argument}
    (innocent : ∀ arg ∈ index, Innocent arg) (free : Free banned index) : (pop target index).Clean base banned := by
  unfold pop
  dsimp only
  repeat' first
    | with_reducible refine Op.Clean.bind ?_ fun _ _ => ?_
    | split
  all_goals grind -linarith [Store.Free.eraseIdx, Store.Free.cell]

@[grind ←] theorem clean_swap (empty : base = {}) {target : Value} (isTarget : target.Free banned) (i j : Int) :
    (swap target i j).Clean base banned := by
  unfold swap
  grind -linarith [Store.Free.swap]

@[grind ←] theorem clean_copy (free : v.Free banned) : (copy v).Clean base banned := by
  unfold copy
  grind -linarith [Store.Free.get]

@[grind ←] theorem clean_len (v : Value) : (len v).Clean base banned := by
  unfold len
  grind -linarith

@[grind ←] theorem clean_shuffled (free : v.Free banned) : (shuffle v).Clean base banned := by
  have inside : ∀ id items, v = .tuple id items → ∀ w ∈ items.toArray, w.Free banned := by
    rintro id items rfl w member
    exact Value.free_tuple_iff.mp free w (List.mem_toArray.mp member)
  unfold shuffle
  repeat' first
    | with_reducible refine Op.Clean.bind ?_ fun _ _ => ?_
    | split
  all_goals grind -linarith [Store.Free.cell]

@[grind ←] theorem clean_setTemplates (v : Value) : (setTemplates v).Clean base banned := by
  unfold setTemplates
  dsimp only
  repeat' first
    | exact Op.clean_templates _
    | with_reducible refine Op.Clean.bind ?_ fun _ _ => ?_
    | split
  all_goals grind -linarith

@[grind ←] theorem clean_locate (name : String) (count : Int) : (locate name count).Clean base banned := by
  unfold locate
  grind -linarith

@[grind ←] theorem clean_filterWords (v : Value) : (filterWords v).Clean base banned := by
  unfold filterWords
  grind -linarith

@[grind ←] theorem clean_findingValue {f : Ocr.Finding} (free : f.text.Free banned) :
    (findingValue f).Clean base banned := by
  unfold findingValue
  grind -linarith

@[grind ←] theorem clean_regionValue (free : v.Free banned) : (regionValue v).Clean base banned := by
  unfold regionValue
  grind -linarith [Store.Free.unpack]

@[grind ←] theorem clean_findText (innocent : InnocentArguments args) (free : Free banned args) :
    (findText args).Clean base banned := by
  have given : ∀ i v, args[i]? = some v → Innocent v := fun i v found => innocent v (List.mem_of_getElem? found)
  unfold findText
  dsimp only
  repeat' first
    | with_reducible refine Op.Clean.bind ?_ fun _ _ => ?_
    | split
  all_goals grind -linarith

@[grind ←] theorem clean_flag (innocent : InnocentArguments args) : (flag args.head?).Clean base banned := by
  rcases args with _ | ⟨e | v, rest⟩
  · trivial
  · exact innocent _ List.mem_cons_self
  · exact Op.clean_truth v

@[grind ←] theorem clean_checkColor (innocent : InnocentArguments args) : (checkColor args).Clean base banned := by
  unfold InnocentArguments at innocent
  unfold checkColor
  repeat' first
    | with_reducible refine Op.Clean.bind ?_ fun _ _ => ?_
    | split
  all_goals grind -linarith

@[grind ←] theorem free_pointValue (p : Int × Int) : (pointValue p).Free banned := by
  unfold pointValue
  grind -linarith

/-- The built-ins that change a list. -/
def changesList : Builtin → Bool
  | .append | .pop | .swap => true
  | _ => false

theorem clean_performMany (changes : changesList b = true → base = {}) (innocent : InnocentArguments args)
    (free : Free banned args) : (performMany b args).Clean base banned := by
  unfold performMany
  split
  all_goals
    try dsimp only
    repeat' first
      | with_reducible refine Op.Clean.bind ?_ fun _ _ => ?_
      | split
  all_goals
    try simp only [Contents.free_cons] at free
    try simp only [innocentArguments_cons] at innocent
    grind -ring -linarith [changesList]

@[grind ←] theorem clean_perform (changes : changesList b = true → base = {}) (free : v.Free banned) :
    (perform b v).Clean base banned := by
  have many : (do performMany b (← arguments b v) : Op Value).Clean base banned :=
    clean_arguments b free fun _ => clean_performMany changes
  unfold perform
  split
  case h_7 => exact many
  all_goals grind -linarith

@[grind ←] theorem clean_performEmpty (b : Builtin) : (performEmpty b).Clean base banned := by
  unfold performEmpty
  grind -linarith

end Builtins

/-! ### Requests -/

namespace Request

/-- Whether a request is for one of the built-ins that change a list. -/
def changesList : Request → Bool
  | builtin b _ => Builtins.changesList b
  | _ => false

/-- A request about free values. -/
def Free (banned : SignalKind → Bool) : Request → Prop
  | newList items => ∀ v ∈ items, v.Free banned
  | computed v | signal _ v | builtin _ v => v.Free banned
  | literal _ | bareBuiltin _ => True
  | binary _ a b | element a b => a.Free banned ∧ b.Free banned

theorem free_none (r : Request) : r.Free fun _ => false := by
  cases r <;> simp [Free, Value.free_none]

/-- What a request about free values is answered with: a signal if it asks for one, and a free value
otherwise. -/
def Answered (banned : SignalKind → Bool) : Request → Value → Prop
  | signal kind payload, v => ∃ id, v = .signal id kind payload
  | _, v => v.Free banned

theorem guards_carryOut {r : Request} (changes : r.changesList = true → base = {}) (free : r.Free banned) :
    r.carryOut.Guards base banned (r.Answered banned) := by
  cases r with
  | newList items => exact Op.clean_newList free
  | computed v => exact Op.clean_computed free
  | signal kind payload => exact fun bench sound => ⟨sound.of_cells rfl, _, rfl⟩
  | literal text => exact Eval.clean_literal text
  | binary operator a b =>
    exact Op.Clean.bind (Eval.clean_operate operator free.1 free.2) fun _ => Op.clean_computed
  | element container index => exact Eval.clean_element index free.1
  | builtin b v => exact Op.Clean.bind (Builtins.clean_perform changes free) fun _ => Op.clean_computed
  | bareBuiltin b => exact Op.Clean.bind (Builtins.clean_performEmpty b) fun _ => Op.clean_computed

theorem keeps_carryOut {r : Request} (free : r.Free banned) : Op.Keeps banned r.carryOut (r.Answered banned) :=
  (guards_carryOut (fun _ => rfl) free).mono (fun _ => Store.sound_empty.symm) (fun _ _ => trivial) fun _ => id

theorem mild_carryOut {r : Request} (changes : r.changesList = true → base = {}) :
    r.carryOut.Mild (Bench.Extends base) :=
  (guards_carryOut changes r.free_none).mild

end Request

end DeskScript
