import Mathlib
import DeskScript.Proofs.Breakpoints
import DeskScript.Proofs.Endings

/-!
# Groups do not depend on order

The classes of similar rectangles are the parts of a collection that hang together and are apart from
each other, and there is only one way to take a collection apart like that. So what is grouped may
come in any order, and the finds of several searches in the order in which the searches are done.
-/

namespace DeskScript

theorem Routine.bind_bind {σ α β γ : Type} (x : Routine σ α) (f : α → Routine σ β) (g : β → Routine σ γ) :
    x >>= f >>= g = x >>= fun a => f a >>= g := by
  induction x with
  | done a => rfl
  | fail e => rfl
  | step h next ih => exact congrArg (Routine.step h) (funext ih)
  | say speaker t next ih => exact congrArg (Routine.say speaker t) ih
  | ask speaker prompt next ih => exact congrArg (Routine.ask speaker prompt) (funext ih)

namespace Vision

theorem Rectangle.similar_comm (a b : Rectangle) : a.similar b = b.similar a := by
  have turned (u v : Int) : (u - v).natAbs = (v - u).natAbs := by omega
  simp only [similar, min_comm a.width, min_comm a.height, turned a.x, turned a.y, turned a.right,
    turned a.bottom]

/-! ### Classes -/

/-- Rectangles that hang together: one after the other is similar to one before. -/
inductive Linked : Multiset Rectangle → Prop
  | single (r : Rectangle) : Linked {r}
  | cons {c : Multiset Rectangle} {r b : Rectangle} (linked : Linked c) (member : r ∈ c)
      (near : r.similar b) : Linked (b ::ₘ c)

theorem Linked.append {c : Multiset Rectangle} (linked : Linked c) {r : Rectangle} (member : r ∈ c)
    {l : List Rectangle} (near : ∀ b ∈ l, r.similar b) : Linked (l + c) := by
  induction l with
  | nil => simpa using linked
  | cons b l ih =>
    obtain ⟨first, others⟩ := List.forall_mem_cons.mp near
    rw [← Multiset.cons_coe, Multiset.cons_add]
    exact (ih others).cons (Multiset.mem_add.mpr (.inr member)) first

/-- What hangs together cannot be taken apart without separating two similar rectangles. -/
theorem Linked.split {c : Multiset Rectangle} (linked : Linked c) {x y : Multiset Rectangle}
    (parts : c = x + y) (left : x ≠ 0) (right : y ≠ 0) : ∃ a ∈ x, ∃ b ∈ y, a.similar b := by
  induction linked generalizing x y with
  | single r =>
    have one := congrArg Multiset.card parts
    have first := Multiset.card_pos.mpr left
    have second := Multiset.card_pos.mpr right
    rw [Multiset.card_singleton, Multiset.card_add] at one
    omega
  | @cons c r b _ member near ih =>
    have there : b ∈ x + y := parts ▸ Multiset.mem_cons_self b c
    rcases Multiset.mem_add.mp there with here | here
    · obtain ⟨x, rfl⟩ := Multiset.exists_cons_of_mem here
      rw [Multiset.cons_add, Multiset.cons_inj_right] at parts
      by_cases none : x = 0
      · subst none
        rw [zero_add] at parts
        exact ⟨b, here, r, parts ▸ member, by rwa [Rectangle.similar_comm]⟩
      · obtain ⟨p, first, q, second, near⟩ := ih parts none right
        exact ⟨p, Multiset.mem_cons_of_mem first, q, second, near⟩
    · obtain ⟨y, rfl⟩ := Multiset.exists_cons_of_mem here
      rw [Multiset.add_cons, Multiset.cons_inj_right] at parts
      by_cases none : y = 0
      · subst none
        rw [add_zero] at parts
        exact ⟨r, parts ▸ member, b, here, near⟩
      · obtain ⟨p, first, q, second, near⟩ := ih parts left none
        exact ⟨p, first, q, Multiset.mem_cons_of_mem second, near⟩

theorem Linked.ne_zero {c : Multiset Rectangle} (linked : Linked c) : c ≠ 0 := by
  cases linked with
  | single r => exact Multiset.singleton_ne_zero r
  | cons _ _ _ => exact Multiset.cons_ne_zero

/-- No rectangle of the one collection is similar to one of the other. -/
def Apart (c d : Multiset Rectangle) : Prop := ∀ a ∈ c, ∀ b ∈ d, a.similar b = false

/-- What hangs together lies on one side of a gap. -/
theorem Linked.le_of_mem {c d rest : Multiset Rectangle} (linked : Linked c) (within : c ≤ d + rest)
    (apart : Apart d rest) {a : Rectangle} (member : a ∈ c) (here : a ∈ d) : c ≤ d := by
  by_contra beyond
  have both : c ∩ d ≠ 0 := fun none =>
    Multiset.notMem_zero a (none ▸ Multiset.mem_inter.mpr ⟨member, here⟩)
  have more : c - d ≠ 0 := fun none => beyond (tsub_eq_zero_iff_le.mp none)
  have parts : c = c ∩ d + (c - d) := by rw [add_comm, Multiset.sub_add_inter]
  obtain ⟨p, first, q, second, near⟩ := linked.split parts both more
  have many := Multiset.mem_sub.mp second
  have most := Multiset.le_iff_count.mp within q
  rw [Multiset.count_add] at most
  have far := apart p (Multiset.mem_inter.mp first).2 q (Multiset.count_pos.mp (by omega))
  rw [near] at far
  cases far

/-- A collection taken apart into classes. -/
structure Clustering (m : Multiset Rectangle) (classes : Multiset (Multiset Rectangle)) : Prop where
  whole : classes.sum = m
  linked : ∀ c ∈ classes, Linked c
  apart : ∀ c others, classes = c ::ₘ others → Apart c others.sum

theorem Clustering.tail {m c : Multiset Rectangle} {others : Multiset (Multiset Rectangle)}
    (clustering : Clustering m (c ::ₘ others)) : Clustering others.sum others := by
  refine ⟨rfl, fun d member => clustering.linked d (Multiset.mem_cons_of_mem member), ?_⟩
  rintro d rest rfl a first b second
  refine clustering.apart d (c ::ₘ rest) (Multiset.cons_swap c d rest) a first b ?_
  rw [Multiset.sum_cons]
  exact Multiset.mem_add.mpr (.inr second)

/-- There is one way to take a collection apart into classes. -/
theorem Clustering.unique {m : Multiset Rectangle} {p q : Multiset (Multiset Rectangle)}
    (first : Clustering m p) (second : Clustering m q) : p = q := by
  induction p using Multiset.induction_on generalizing m q with
  | empty =>
    have none : q.sum = 0 := second.whole.trans first.whole.symm
    refine (Multiset.eq_zero_of_forall_notMem fun d member => (second.linked d member).ne_zero ?_).symm
    exact Multiset.le_zero.mp (none ▸ Multiset.single_le_sum (fun _ _ => Multiset.zero_le _) d member)
  | cons c p ih =>
    have linked := first.linked c (Multiset.mem_cons_self c p)
    obtain ⟨a, member⟩ := Multiset.exists_mem_of_ne_zero linked.ne_zero
    have total := first.whole.trans second.whole.symm
    rw [Multiset.sum_cons] at total
    obtain ⟨d, there, here⟩ : ∃ d ∈ q, a ∈ d := by
      have inside : a ∈ q.sum := total ▸ Multiset.mem_add.mpr (.inl member)
      exact Multiset.mem_join.mp inside
    obtain ⟨q, rfl⟩ := Multiset.exists_cons_of_mem there
    rw [Multiset.sum_cons] at total
    have linked' := second.linked d (Multiset.mem_cons_self d q)
    obtain rfl : c = d := by
      refine le_antisymm ?_ ?_
      · refine linked.le_of_mem ?_ (second.apart d q rfl) member here
        exact total ▸ Multiset.le_add_right c p.sum
      · refine linked'.le_of_mem ?_ (first.apart c p rfl) here member
        exact total ▸ Multiset.le_add_right d q.sum
    have same : p.sum = q.sum := add_left_cancel total
    rw [ih first.tail (same ▸ second.tail)]

/-! ### How classes are found -/

theorem gather_perm (queue members rest : List Rectangle) :
    ((gather queue members rest).1 ++ (gather queue members rest).2).Perm (queue ++ members ++ rest) := by
  fun_induction gather queue members rest with
  | case1 members rest => exact .refl _
  | case2 members rest r queue _ ih =>
    exact ih.trans (List.perm_middle.append_right rest)
  | case3 members rest r queue _ parts ih =>
    have split : (parts.1 ++ parts.2).Perm rest := by
      simp only [parts, List.partition_eq_filter_filter]
      exact List.filter_append_perm r.similar rest
    refine ih.trans (Multiset.coe_eq_coe.mp ?_)
    rw [← Multiset.coe_eq_coe] at split
    simp only [← Multiset.coe_add, ← Multiset.cons_coe, Multiset.cons_add, Multiset.add_cons] at split ⊢
    rw [← split]
    abel_nf

/-- What has been gathered hangs together, and nothing like it is left. -/
theorem gather_class {queue members rest : List Rectangle} (linked : Linked ↑(queue ++ members))
    (apart : Apart members rest) :
    Linked ↑(gather queue members rest).1 ∧
      Apart (gather queue members rest).1 (gather queue members rest).2 := by
  fun_induction gather queue members rest with
  | case1 members rest => exact ⟨linked, apart⟩
  | case2 members rest r queue again ih =>
    have known : r ∈ members := List.mem_of_mem_head? again
    refine ih (Multiset.coe_eq_coe.mpr List.perm_middle ▸ linked) fun a member => ?_
    rcases List.mem_cons.mp member with rfl | member
    · exact apart a known
    · exact apart a member
  | case3 members rest r queue _ parts ih =>
    simp only [parts, List.partition_eq_filter_filter] at ih ⊢
    refine ih ?_ fun a member b left => ?_
    · have grown := linked.append (r := r) (by simp) (l := rest.filter r.similar)
        fun b near => (List.mem_filter.mp near).2
      have same : ((rest.filter r.similar : List Rectangle) : Multiset Rectangle) + ↑(r :: queue ++ members) =
          ↑(rest.filter r.similar ++ queue ++ r :: members) := by
        refine Multiset.coe_eq_coe.mpr ?_
        rw [List.append_assoc]
        exact List.perm_middle.symm.append_left _
      exact same ▸ grown
    · obtain ⟨there, far⟩ := List.mem_filter.mp left
      rcases List.mem_cons.mp member with rfl | member
      · simpa using far
      · exact apart a member b there

theorem clustering_classes (rects : List Rectangle) :
    Clustering rects ((classes rects).map (↑) : List (Multiset Rectangle)) := by
  fun_induction classes rects with
  | case1 => exact ⟨rfl, by simp, by simp⟩
  | case2 r rest found ih =>
    obtain ⟨linked, apart⟩ := @gather_class [r] [] rest (.single r) (by simp [Apart])
    have parts := Multiset.coe_eq_coe.mpr (gather_perm [r] [] rest)
    rw [← Multiset.coe_add] at parts
    refine ⟨?_, ?_, ?_⟩
    · rw [List.map_cons, ← Multiset.cons_coe, Multiset.sum_cons, ih.whole]
      exact parts
    · rw [List.map_cons, ← Multiset.cons_coe]
      exact Multiset.forall_mem_cons.mpr ⟨linked, ih.linked⟩
    · intro c others same
      rw [List.map_cons, ← Multiset.cons_coe] at same
      rcases Multiset.cons_eq_cons.mp same with ⟨rfl, rfl⟩ | ⟨-, cs, tail, rfl⟩
      · rw [ih.whole]
        exact apart
      · intro a first b second
        rw [Multiset.sum_cons] at second
        rcases Multiset.mem_add.mp second with here | later
        · have left : a ∈ found.2 := by
            rw [← Multiset.mem_coe, ← ih.whole, tail, Multiset.sum_cons]
            exact Multiset.mem_add.mpr (.inl first)
          rw [Rectangle.similar_comm]
          exact apart b here a left
        · exact ih.apart c cs tail a first b later

/-- The same rectangles in another order have the same classes. -/
theorem classes_perm {l l' : List Rectangle} (perm : l.Perm l') :
    ((classes l).map (↑) : List (Multiset Rectangle)).Perm ((classes l').map (↑)) := by
  refine Multiset.coe_eq_coe.mp ((clustering_classes l).unique ?_)
  rw [Multiset.coe_eq_coe.mpr perm]
  exact clustering_classes l'

/-! ### Clusters and groups -/

theorem Cluster.ofMembers_perm {l l' : List Rectangle} (perm : l.Perm l') : ofMembers l = ofMembers l' := by
  have total (part : Rectangle → Int) :
      (l.map part).foldl (· + ·) 0 = (l'.map part).foldl (· + ·) 0 := by
    rw [← List.sum_eq_foldl, ← List.sum_eq_foldl]
    exact (perm.map part).sum_eq
  simp only [ofMembers, total, perm.length_eq]

theorem clusters_perm {l l' : List Rectangle} (perm : l.Perm l') :
    ((classes l).map Cluster.ofMembers).Perm ((classes l').map Cluster.ofMembers) := by
  have lifted (l : List Rectangle) : (classes l).map Cluster.ofMembers =
      ((classes l).map (↑) : List (Multiset Rectangle)).map
        fun c : Multiset Rectangle => Quot.liftOn c Cluster.ofMembers fun _ _ => Cluster.ofMembers_perm := by
    rw [List.map_map]
    rfl
  rw [lifted, lifted]
  exact (classes_perm perm).map _

/-- A cluster survives if none of the others absorbs it, wherever they stand. -/
theorem survivors_eq (clusters : List Cluster) :
    survivors clusters = (clusters.filter (1 < ·.weight)).filter fun a =>
      ((clusters.filter (1 < ·.weight)).erase a).all fun b => !a.absorbedBy b := by
  rw [survivors]
  generalize clusters.filter (1 < ·.weight) = l
  change ((l.zipIdx.filter fun e => l.zipIdx.all fun q => q.2 = e.2 || !e.1.absorbedBy q.1).map (·.1)) = _
  have each : ∀ e ∈ l.zipIdx, (l.zipIdx.all fun q => q.2 = e.2 || !e.1.absorbedBy q.1) =
      (l.erase e.1).all fun b => !e.1.absorbedBy b := by
    rintro ⟨a, i⟩ member
    have here := List.mk_mem_zipIdx_iff_getElem?.mp member
    obtain ⟨bound, rfl⟩ := List.getElem?_eq_some_iff.mp here
    have same : (l.eraseIdx i).Perm (l.erase l[i]) :=
      ((List.getElem_cons_eraseIdx_perm bound).trans (List.perm_cons_erase (List.getElem_mem bound))).cons_inv
    rw [← same.all_eq, Bool.eq_iff_iff, List.all_eq_true, List.all_eq_true]
    simp only [Prod.forall, List.mk_mem_zipIdx_iff_getElem?, List.mem_eraseIdx_iff_getElem?, Bool.or_eq_true,
      decide_eq_true_eq]
    constructor
    · rintro all b ⟨j, other, there⟩
      exact (all b j there).resolve_left other
    · intro all b j there
      by_cases same : j = i
      · exact .inl same
      · exact .inr (all b ⟨j, same, there⟩)
  rw [List.filter_congr each]
  have pulled := List.filter_map (f := Prod.fst) (p := fun a => (l.erase a).all fun b => !a.absorbedBy b)
    (l := l.zipIdx)
  rw [List.zipIdx_map_fst] at pulled
  exact pulled.symm

theorem survivors_perm {l l' : List Cluster} (perm : l.Perm l') : (survivors l).Perm (survivors l') := by
  rw [survivors_eq, survivors_eq]
  have supported := perm.filter (1 < ·.weight)
  refine (supported.filter _).trans (.of_eq (List.filter_congr fun a _ => ?_))
  exact (supported.erase a).all_eq

theorem group_perm {l l' : List Rectangle} (perm : l.Perm l') : (group l).Perm (group l') :=
  (survivors_perm (clusters_perm perm)).map _

/-! ### Finding a template -/

/-- The finds of all examples without repetitions. A single one is kept as it is. -/
def distinct (found : List Rectangle) : List Rectangle :=
  if 1 < found.length then group (twice found) else found

/-- The point on the screen of the middle of a find. -/
def onScreen (sx sy : Value) (r : Rectangle) : Except Error (Int × Int) := do
  let (x, y) ← toScreen (.int r.center.1) (.int r.center.2) sx sy
  return (← x.toInt, ← y.toInt)

/-- What each example is found to be, one after the other. -/
def searches (screen : Shape) (scale : Value) (settings : Settings) :
    List String → Op (List (List Rectangle))
  | [] => pure []
  | path :: rest => do
    let needle ← exampleNeedle path scale
    let found ← findScaled needle screen settings
    return found :: (← searches screen scale settings rest)

/-- Looks for all examples of a template. -/
def survey (directory name : String) (r : Request) : Op (Value × Value × List (List Rectangle)) := do
  let screen ← screenshot none r.scale
  let (sx, sy) ← density screen
  Action.sayLine "Screenshot took 0.000 seconds"
  let paths ← examples directory name
  Action.sayLine "Start locating"
  let scale ← if (← get).desk.dense then r.scale.mul (.float 0.5) else pure r.scale
  let settings : Settings :=
    { scales := r.scales, threshold := r.threshold, gray := r.gray, display := r.display }
  return (sx, sy, ← searches screen scale settings paths)

/-- What is made of the finds of all examples. -/
def settle (count sx sy : Value) (found : List Rectangle) : Op (List (Int × Int)) := do
  if found.isEmpty then
    reportTimes
    return []
  if 1 < found.length then
    Action.sayLine s!"Templates found: {found.length} -> {(distinct found).length} after dedup"
  let points ← (← firstOf count (distinct found)).mapM fun r => (onScreen sx sy r : Op _)
  reportTimes
  return points

theorem findExamples_eq (screen : Shape) (scale : Value) (settings : Settings) (paths : List String) :
    findExamples screen scale settings paths = (do
      return (← searches screen scale settings paths).flatten) := by
  induction paths with
  | nil => rfl
  | cons path rest ih =>
    simp only [findExamples, searches, ih, Routine.bind_bind]
    rfl

theorem locate_eq (directory name : String) (r : Request) : locate directory name r = (do
    let (sx, sy, hits) ← survey directory name r
    settle r.count sx sy hits.flatten) := by
  have placed (sx sy : Value) : (fun rect : Rectangle => (do
      let (x, y) ← toScreen (.int rect.center.1) (.int rect.center.2) sx sy
      return (← x.toInt, ← y.toInt) : Op (Int × Int))) = fun rect => liftM (onScreen sx sy rect) := by
    funext rect
    simp only [onScreen]
    cases toScreen (.int rect.center.1) (.int rect.center.2) sx sy with
    | error e => rfl
    | ok p =>
      obtain ⟨x, y⟩ := p
      change (liftM x.toInt >>= fun a => liftM y.toInt >>= fun b => pure (a, b) : Op (Int × Int)) =
        liftM (x.toInt >>= fun a => y.toInt >>= fun b => pure (a, b))
      cases x.toInt <;> cases y.toInt <;> rfl
  have either {α β : Type} (c : Prop) [Decidable c] (x y : Op α) (f : α → Op β) :
      (if c then x else y) >>= f = if c then x >>= f else y >>= f := by
    split <;> rfl
  simp only [locate, survey, findExamples_eq, Routine.bind_bind, placed, either]
  rfl

variable {f : Rectangle → Except Error (Int × Int)} {points : List (Int × Int)}

theorem mapM_lift (l : List Rectangle) :
    (l.mapM fun r => (liftM (f r) : Op (Int × Int))) = liftM (l.mapM f) := by
  have loop : ∀ done, List.mapM.loop (fun r => (liftM (f r) : Op (Int × Int))) l done =
      liftM (List.mapM.loop f l done) := by
    induction l with
    | nil => exact fun done => rfl
    | cons r rest ih =>
      intro done
      rw [List.mapM.loop, List.mapM.loop]
      cases f r with
      | error e => rfl
      | ok p => exact ih (p :: done)
  exact loop []

theorem mapM_perm {l l' : List Rectangle} (perm : l.Perm l') (ok : l.mapM f = .ok points) :
    ∃ points', l'.mapM f = .ok points' ∧ points.Perm points' := by
  induction perm generalizing points with
  | nil => exact ⟨points, ok, .refl _⟩
  | cons r _ ih =>
    obtain ⟨p, rest, first, later, rfl⟩ := Session.mapM_cons_ok ok
    obtain ⟨rest', ok', same⟩ := ih later
    exact ⟨p :: rest', by rw [List.mapM_cons, first, ok']; rfl, same.cons p⟩
  | swap r r' l =>
    obtain ⟨p, _, first, later, rfl⟩ := Session.mapM_cons_ok ok
    obtain ⟨q, rest, second, last, rfl⟩ := Session.mapM_cons_ok later
    exact ⟨q :: p :: rest, by rw [List.mapM_cons, List.mapM_cons, first, second, last]; rfl, .swap q p rest⟩
  | trans _ _ ih ih' =>
    obtain ⟨_, ok', same⟩ := ih ok
    obtain ⟨points', ok'', same'⟩ := ih' ok'
    exact ⟨points', ok'', same.trans same'⟩

theorem distinct_perm {l l' : List Rectangle} (perm : l.Perm l') : (distinct l).Perm (distinct l') := by
  simp only [distinct, perm.length_eq]
  split
  · exact group_perm (perm.flatMap_right _)
  · exact perm

theorem firstOf_all {α : Type} {count : Value} {items : List α}
    (enough : count = .null ∨ ∃ n : Int, count = .int n ∧ items.length ≤ n) :
    firstOf count items = .ok items := by
  rcases enough with rfl | ⟨n, rfl, least⟩
  · rfl
  · have all : items.length ≤ n.toNat := by omega
    simp only [firstOf]
    rw [if_pos (by omega), List.take_of_length_le all]

theorem report_perm {l l' : List Rectangle} (perm : l.Perm l') {s s' : Bench × Console}
    (ran : Routine.run (do
      let points ← liftM (l.mapM f)
      reportTimes
      return points : Op (List (Int × Int))) s = .ok points s') :
    ∃ points', Routine.run (do
      let points ← liftM (l'.mapM f)
      reportTimes
      return points : Op (List (Int × Int))) s = .ok points' s' ∧ points.Perm points' := by
  cases ok : l.mapM f with
  | error e =>
    rw [ok] at ran
    cases ran
  | ok found =>
    rw [ok] at ran
    obtain ⟨_, _, ⟨⟩, later⟩ := Routine.run_bind_ok.mp ran
    obtain ⟨_, _, told, ⟨⟩⟩ := Routine.run_bind_ok.mp later
    obtain ⟨points', ok', same⟩ := mapM_perm perm ok
    refine ⟨points', ?_, same⟩
    rw [ok']
    exact Routine.run_bind_ok.mpr ⟨_, _, rfl, Routine.run_bind_ok.mpr ⟨_, _, told, rfl⟩⟩

theorem settle_perm {count sx sy : Value} {l l' : List Rectangle} (perm : l.Perm l')
    (enough : count = .null ∨ ∃ n : Int, count = .int n ∧ (distinct l).length ≤ n)
    {s s' : Bench × Console} (ran : (settle count sx sy l).run s = .ok points s') :
    ∃ points', (settle count sx sy l').run s = .ok points' s' ∧ points.Perm points' := by
  have kept := distinct_perm perm
  have all := firstOf_all enough
  rw [kept.length_eq] at enough
  simp only [settle, perm.isEmpty_eq, perm.length_eq, kept.length_eq, all, firstOf_all enough, mapM_lift] at ran ⊢
  by_cases none : l'.isEmpty
  · rw [if_pos none] at ran ⊢
    exact ⟨points, ran, .refl _⟩
  · by_cases many : 1 < l'.length
    · rw [if_neg none, if_pos many] at ran ⊢
      obtain ⟨_, t, said, later⟩ := Routine.run_bind_ok.mp ran
      obtain ⟨points', ran', same⟩ := report_perm kept later
      exact ⟨points', Routine.run_bind_ok.mpr ⟨_, t, said, ran'⟩, same⟩
    · rw [if_neg none, if_neg many] at ran ⊢
      exact report_perm kept ran

/-- Searches that end in another order make the same finds, and what is shown of them is the same as
long as as many are asked for. -/
theorem locate_in_any_order {hits hits' : List (List Rectangle)} (order : hits.Perm hits') :
    (distinct hits.flatten).Perm (distinct hits'.flatten) ∧
    ((distinct hits.flatten).map (·.center)).Perm ((distinct hits'.flatten).map (·.center)) ∧
    ∀ (directory name : String) (r : Request) (s t : Bench × Console) (sx sy : Value),
      (survey directory name r).run s = .ok (sx, sy, hits) t →
      (locate directory name r).run s = (settle r.count sx sy hits.flatten).run t ∧
      ((r.count = .null ∨ ∃ n : Int, r.count = .int n ∧ (distinct hits.flatten).length ≤ n) →
        ∀ points s', (settle r.count sx sy hits.flatten).run t = .ok points s' →
          ∃ points', (settle r.count sx sy hits'.flatten).run t = .ok points' s' ∧
            points.Perm points') := by
  have same := distinct_perm order.flatten
  refine ⟨same, same.map _, fun directory name r s t sx sy ran => ⟨?_, fun enough points s' => ?_⟩⟩
  · rw [locate_eq, Routine.run_bind, ran]
  · exact settle_perm order.flatten enough

/-- Two finds next to each other and one far away, whichever search ends first. -/
theorem locate_in_any_order_two :
    let near : List Rectangle := [⟨0, 0, 10, 10⟩, ⟨2, 0, 10, 10⟩]
    let away : List Rectangle := [⟨50, 0, 10, 10⟩]
    distinct [near, away].flatten = [⟨1, 0, 10, 10⟩, ⟨50, 0, 10, 10⟩] ∧
      distinct [away, near].flatten = [⟨50, 0, 10, 10⟩, ⟨1, 0, 10, 10⟩] ∧
      (distinct [near, away].flatten).Perm (distinct [away, near].flatten) :=
  ⟨by decide +kernel, by decide +kernel, (locate_in_any_order (.swap ..)).1⟩

end Vision

end DeskScript
