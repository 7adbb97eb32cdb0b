import DeskScript.Proofs.Free
import DeskScript.Interp.Request
import DeskScript.Interp.Pause
/-!
# Errors that scripts can run into

Some errors say that a tree is none of the language. No operation on values and no operation of the
machine reports one of them; only the evaluator does, when it meets such a tree. This is shown once
for each function that can fail.
-/

namespace DeskScript

open Syntax

/-! ### Going through lists -/

section Lists

variable {m : Type → Type*} [Monad m] {α β : Type} {P : m (List α) → Prop} {Q : α → Prop} {items : List β}

/-- What holds once all items have been gone through, and is carried back over each of them, holds
from the start. -/
theorem mapM_keeps {f : β → m α} (ends : ∀ found : List α, (∀ a ∈ found, Q a) → P (pure found))
    (goes : ∀ b ∈ items, ∀ k : α → m (List α), (∀ a, Q a → P (k a)) → P (f b >>= k)) :
    P (items.mapM f) := by
  have loop : ∀ found : List α, (∀ a ∈ found, Q a) → P (List.mapM.loop f items found) := by
    induction items with
    | nil => exact fun found all => ends _ fun a member => all a (List.mem_reverse.mp member)
    | cons b rest ih =>
      intro found all
      have later := ih fun b member => goes b (List.mem_cons_of_mem _ member)
      refine goes b List.mem_cons_self _ fun a such => ?_
      exact later (a :: found) (List.forall_mem_cons.mpr ⟨such, all⟩)
  exact loop [] (by simp)

theorem filterMapM_keeps {f : β → m (Option α)}
    (ends : ∀ found : List α, (∀ a ∈ found, Q a) → P (pure found))
    (goes : ∀ b ∈ items, ∀ k : Option α → m (List α), (∀ r, (∀ a ∈ r, Q a) → P (k r)) → P (f b >>= k)) :
    P (items.filterMapM f) := by
  have loop : ∀ found : List α, (∀ a ∈ found, Q a) → P (List.filterMapM.loop f items found) := by
    induction items with
    | nil => exact fun found all => ends _ fun a member => all a (List.mem_reverse.mp member)
    | cons b rest ih =>
      intro found all
      have later := ih fun b member => goes b (List.mem_cons_of_mem _ member)
      refine goes b List.mem_cons_self _ fun r such => ?_
      cases r with
      | none => exact later found all
      | some a => exact later (a :: found) (List.forall_mem_cons.mpr ⟨such a rfl, all⟩)
  exact loop [] (by simp)

end Lists

/-! ### Innocent results -/

/-- Whether an error says that a tree is none of the language. -/
def Error.blamesTree : Error → Bool
  | script (.unknownNode _) | script (.unknownLabel _) | script .callShape | script (.bodyMissing _)
  | script (.operandCount _) => true
  | _ => false

@[grind =] theorem Error.blamesTree_eq (e : Error) : e.blamesTree =
    match e with
    | script (.unknownNode _) | script (.unknownLabel _) | script .callShape
    | script (.bodyMissing _) | script (.operandCount _) => true
    | _ => false :=
  rfl

/-- A result, or an error that does not say that a tree is none of the language. -/
def Innocent {α : Type} : Except Error α → Prop
  | .ok _ => True
  | .error e => e.blamesTree = false

section Innocent

variable {α β : Type}

@[grind =] theorem innocent_ok (a : α) : Innocent (.ok a : Except Error α) ↔ True := .rfl

@[grind =] theorem innocent_pure (a : α) : Innocent (pure a : Except Error α) ↔ True := .rfl

@[grind =] theorem innocent_error (e : Error) :
    Innocent (.error e : Except Error α) ↔ e.blamesTree = false := .rfl

@[grind =] theorem innocent_throw (e : Error) :
    Innocent (throw e : Except Error α) ↔ e.blamesTree = false := .rfl

@[grind ←] theorem innocent_bind {x : Except Error β} {f : β → Except Error α} (first : Innocent x)
    (rest : ∀ b, Innocent (f b)) : Innocent (x >>= f) := by
  cases x with
  | error e => exact first
  | ok b => exact rest b

@[grind ←] theorem innocent_map {x : Except Error β} (f : β → α) (innocent : Innocent x) : Innocent (x.map f) := by
  cases x with
  | error e => exact innocent
  | ok b => trivial

@[grind ←] theorem innocent_mapM {items : List β} {f : β → Except Error α}
    (each : ∀ b ∈ items, Innocent (f b)) : Innocent (items.mapM f) :=
  mapM_keeps (fun _ _ => trivial) fun b member _ rest => innocent_bind (each b member) fun a => rest a trivial

@[grind ←] theorem innocent_forM {items : List β} {f : β → Except Error PUnit}
    (each : ∀ b ∈ items, Innocent (f b)) : Innocent (items.forM f) := by
  induction items with
  | nil => trivial
  | cons b rest ih =>
    exact innocent_bind (each b List.mem_cons_self) fun _ =>
      ih fun b member => each b (List.mem_cons_of_mem _ member)

@[grind ←] theorem innocent_anyM {items : List β} {f : β → Except Error Bool}
    (each : ∀ b ∈ items, Innocent (f b)) : Innocent (items.anyM f) := by
  induction items with
  | nil => trivial
  | cons b rest ih =>
    refine innocent_bind (each b List.mem_cons_self) fun found => ?_
    cases found with
    | true => trivial
    | false => exact ih fun b member => each b (List.mem_cons_of_mem _ member)

@[grind ←] theorem innocent_filterMapM {items : List β} {f : β → Except Error (Option α)}
    (each : ∀ b ∈ items, Innocent (f b)) : Innocent (items.filterMapM f) :=
  filterMapM_keeps (fun _ _ => trivial) fun b member _ rest =>
    innocent_bind (each b member) fun r => rest r fun _ _ => trivial

@[grind ←] theorem innocent_filterM {items : List β} {f : β → Except Error Bool}
    (each : ∀ b ∈ items, Innocent (f b)) : Innocent (items.filterM f) := by
  have loop : ∀ done : List β, Innocent (List.filterAuxM f items done) := by
    induction items with
    | nil => exact fun done => trivial
    | cons b rest ih =>
      intro done
      refine innocent_bind (each b List.mem_cons_self) fun a => ?_
      exact ih (fun b member => each b (List.mem_cons_of_mem _ member)) _
  exact innocent_bind (loop []) fun _ => trivial

@[grind ←] theorem innocent_optionMapM {item : Option β} {f : β → Except Error α}
    (each : ∀ b, Innocent (f b)) : Innocent (item.mapM f) := by
  cases item with
  | none => trivial
  | some b => exact innocent_bind (each b) fun _ => trivial

@[grind ←] theorem innocent_mapError {ε : Type} (x : Except ε α) {f : ε → Error}
    (each : ∀ e, (f e).blamesTree = false) : Innocent (x.mapError f) := by
  cases x with
  | error e => exact each e
  | ok a => trivial

end Innocent

namespace Value

@[grind ←] theorem innocent_floatOfInt (i : Int) : Innocent (floatOfInt i) := by
  unfold floatOfInt
  grind

@[grind ←] theorem innocent_numeric (n : Numeric) : Innocent n.toFloat := by
  cases n with
  | whole i => exact innocent_floatOfInt i
  | real x => trivial

@[grind ←] theorem innocent_arith {onWhole : Int → Int → Except Error Value}
    {onReal : Float → Float → Except Error Value} (whole : ∀ i j, Innocent (onWhole i j))
    (real : ∀ x y, Innocent (onReal x y)) (a b : Numeric) : Innocent (arith onWhole onReal a b) := by
  unfold arith
  split
  · exact whole _ _
  · grind

theorem innocent_complexes {a b : Value} {pair : Except Error (Number.Complex × Number.Complex)}
    (found : complexes? a b = some pair) : Innocent pair := by
  unfold complexes? at found
  split at found
  · cases found
    trivial
  · obtain ⟨n, -, rfl⟩ := Option.map_eq_some_iff.mp found
    exact innocent_bind (innocent_numeric n) fun _ => trivial
  · obtain ⟨n, -, rfl⟩ := Option.map_eq_some_iff.mp found
    exact innocent_bind (innocent_numeric n) fun _ => trivial
  · cases found

@[grind ←] theorem innocent_onComplex {op : Number.Complex → Number.Complex → Number.Complex}
    {pair : Except Error (Number.Complex × Number.Complex)} (innocent : Innocent pair) :
    Innocent (onComplex op pair) := by
  unfold onComplex
  grind

@[grind ←] theorem innocent_add (a b : Value) : Innocent (a.add b) := by
  unfold add
  grind [innocent_complexes]

@[grind ←] theorem innocent_sub (a b : Value) : Innocent (a.sub b) := by
  unfold sub
  grind [innocent_complexes]

@[grind ←] theorem innocent_repetitions (length : Nat) (count : Value) {tooLong : Error}
    (innocent : tooLong.blamesTree = false) : Innocent (repetitions length count tooLong) := by
  unfold repetitions
  grind

@[grind ←] theorem innocent_mul (a b : Value) : Innocent (a.mul b) := by
  unfold mul
  grind [innocent_complexes, repeatText, repeatBytes, repeatTuple]

@[grind ←] theorem innocent_div (a b : Value) : Innocent (a.div b) := by
  unfold div
  grind [innocent_complexes]

@[grind ←] theorem innocent_mod (a b : Value) : Innocent (a.mod b) := by
  unfold mod
  grind

@[grind ←] theorem innocent_neg (a : Value) : Innocent a.neg := by
  unfold neg
  grind

@[grind ←] theorem innocent_wholeOf (s shown : String) : Innocent (wholeOf s shown) := by
  unfold wholeOf
  grind

@[grind ←] theorem innocent_toInt (a : Value) : Innocent a.toInt := by
  unfold toInt
  grind

@[grind ←] theorem innocent_toFloat (a : Value) : Innocent a.toFloat := by
  unfold toFloat
  grind [realOf]

@[grind ←] theorem innocent_real (a : Value) : Innocent a.real := by
  unfold real
  grind

end Value

namespace Store

@[grind ←] theorem innocent_intText (i : Int) : Innocent (intText i) := by
  unfold intText
  grind

@[grind ←] theorem innocent_quotedAt (s : Store) (fuel : Nat) (path : List (Kind × Nat)) (v : Value) :
    Innocent (s.quotedAt fuel path v) := by
  induction fuel generalizing path v with
  | zero => rfl
  | succ fuel ih =>
    unfold quotedAt
    grind

@[grind ←] theorem innocent_quoted (s : Store) (v : Value) : Innocent (s.quoted v) := innocent_quotedAt s _ _ v

@[grind ←] theorem innocent_shown (s : Store) (v : Value) : Innocent (s.shown v) := by
  unfold shown
  grind

@[grind ←] theorem innocent_allEqual {test : Value → Value → Except Error Bool}
    (innocent : ∀ a b, Innocent (test a b)) (as bs : List Value) : Innocent (allEqual test as bs) := by
  fun_induction allEqual test as bs <;> grind

@[grind ←] theorem innocent_sameEntries {test : Value → Value → Except Error Bool}
    (innocent : ∀ a b, Innocent (test a b)) (other entries : List (Value × Value)) :
    Innocent (sameEntries test other entries) := by
  fun_induction sameEntries test other entries <;> grind

@[grind ←] theorem innocent_equalAt (s : Store) (fuel : Nat) (a b : Value) : Innocent (s.equalAt fuel a b) := by
  induction fuel generalizing a b with
  | zero => rfl
  | succ fuel ih =>
    unfold equalAt
    grind

@[grind ←] theorem innocent_itemEqual (s : Store) (a b : Value) : Innocent (s.itemEqual a b) := by
  unfold itemEqual
  grind [equal]

@[grind ←] theorem innocent_firstDifference (s : Store) (as bs : List Value) :
    Innocent (s.firstDifference as bs) := by
  fun_induction firstDifference s as bs <;> grind

@[grind ←] theorem innocent_relatedAt (s : Store) (r : Relation) (fuel : Nat) (a b : Value) :
    Innocent (s.relatedAt r fuel a b) := by
  induction fuel generalizing a b with
  | zero => rfl
  | succ fuel ih =>
    unfold relatedAt
    grind

@[grind ←] theorem innocent_related (s : Store) (r : Relation) (a b : Value) : Innocent (s.related r a b) :=
  innocent_relatedAt s r _ a b

@[grind ←] theorem innocent_items (s : Store) (v : Value) : Innocent (s.items v) := by
  unfold items
  grind

@[grind ←] theorem innocent_length (s : Store) (v : Value) : Innocent (s.length v) := by
  unfold length
  grind

@[grind ←] theorem innocent_unpack (s : Store) (n : Nat) (v : Value) : Innocent (s.unpack n v) := by
  unfold unpack
  grind

@[grind ←] theorem innocent_entryAt (s : Store) (v key : Value) : Innocent (s.entryAt v key) := by
  unfold entryAt
  grind

@[grind ←] theorem innocent_item (s : Store) (v : Value) (i : Nat) : Innocent (s.item v i) := by
  unfold item
  grind

@[grind ←] theorem innocent_anyEqual (s : Store) (key : String) (items : List Value) :
    Innocent (s.anyEqual key items) := by
  fun_induction anyEqual s key items <;> grind

@[grind ←] theorem innocent_contains (s : Store) (v : Value) (key : String) : Innocent (s.contains v key) := by
  unfold contains
  grind

end Store

@[grind ←] theorem Value.innocent_compares (r : Relation) (a b : Value) : Innocent (Value.compares r a b) := by
  unfold Value.compares
  grind

namespace Literal

@[grind ←] theorem innocent_sum (negative : Bool) (left right : Term) : Innocent (sum negative left right) := by
  unfold sum
  grind

@[grind ←] theorem innocent_checkKey (v : Value) : Innocent (checkKey v) := by
  unfold checkKey
  grind

end Literal

namespace Format

@[grind ←] theorem innocent_next (m : Medium) (s : Supply) : Innocent (s.next m) := by
  unfold Supply.next
  grind

@[grind =] theorem blamesTree_cutOff : cutOff.blamesTree = false := rfl

@[grind ←] theorem innocent_readCount (m : Medium) (supply : Supply) (range : Range) (cs : List Char) :
    Innocent (readCount m supply range cs) := by
  unfold readCount
  grind

@[grind ←] theorem innocent_readDirective (m : Medium) (supply : Supply) (cs : List Char) :
    Innocent (readDirective m supply cs) := by
  unfold readDirective
  split
  next d cs _ =>
    extract_lets flagged finish withFlags
    have finishes : ∀ x, Innocent (finish x) := by grind
    have goes : ∀ u, Innocent (withFlags u) := by
      intro u
      dsimp -zeta only [withFlags]
      refine innocent_bind (innocent_readCount ..) fun (width, supply, cs) => ?_
      extract_lets d counted withWidth
      have goes : ∀ u, Innocent (withWidth u) := by
        intro u
        dsimp -zeta only [withWidth]
        split
        · extract_lets read
          have goes : ∀ u, Innocent (read u) :=
            fun u => innocent_bind (innocent_readCount ..) fun _ => innocent_bind trivial finishes
          split
          · rfl
          · exact goes ()
        · exact innocent_bind trivial finishes
      split
      · rfl
      · exact goes ()
    split
    · rfl
    · exact goes ()

@[grind ←] theorem innocent_wholeText (d : Directive) (i : Int) : Innocent (wholeText d i) := by
  unfold wholeText
  grind

@[grind ←] theorem innocent_plainText (m : Medium) (s : Store) (v : Value) : Innocent (plainText m s v) := by
  unfold plainText
  grind

@[grind ←] theorem innocent_realValue (m : Medium) (v : Value) : Innocent (realValue m v) := by
  cases m with
  | text => exact v.innocent_real
  | bytes => 
    unfold realValue
    cases v.real with
    | ok x => trivial
    | error e => rfl

@[grind =] theorem blamesTree_letterFault (m : Medium) (template : List Char) (d : Directive)
    (rest : List Char) : (letterFault m template d rest).blamesTree = false := by
  unfold letterFault
  grind

@[grind ←] theorem innocent_convert (m : Medium) (s : Store) (d : Directive) (v : Value)
    {fault : Unit → Error} (innocent : (fault ()).blamesTree = false) : Innocent (convert m s d v fault) := by
  unfold convert characterText byteText
  grind

@[grind ←] theorem innocent_pad (m : Medium) (d : Directive) (text : String) : Innocent (pad m d text) := by
  unfold pad
  grind

@[grind ←] theorem innocent_keyed (m : Medium) (s : Store) (supply : Supply) (cs : List Char) :
    Innocent (keyed m s supply cs) := by
  unfold keyed
  grind

@[grind ←] theorem innocent_formatFrom (m : Medium) (s : Store) (template : List Char) (fuel : Nat)
    (supply : Supply) (cs : List Char) : Innocent (formatFrom m s template fuel supply cs) := by
  induction fuel generalizing supply cs with
  | zero => rfl
  | succ fuel ih =>
    unfold formatFrom
    split
    · grind
    · exact innocent_bind (ih ..) fun _ => trivial
    · extract_lets go
      have innocent : ∀ x, Innocent (go x) := by
        intro (supply, rest)
        refine innocent_bind (innocent_readDirective ..) fun _ => ?_
        refine innocent_bind (innocent_next ..) fun _ => ?_
        refine innocent_bind (innocent_convert _ _ _ _ (blamesTree_letterFault ..)) fun _ => ?_
        refine innocent_bind (innocent_pad ..) fun _ => ?_
        exact innocent_bind (ih ..) fun _ => trivial
      split
      · exact innocent_bind (innocent_keyed ..) innocent
      · exact innocent_bind trivial innocent
    · exact innocent_bind (ih ..) fun _ => trivial

end Format
end DeskScript
