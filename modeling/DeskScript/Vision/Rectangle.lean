import DeskScript.Number.Single

/-!
# Groups of rectangles

A search finds the same thing many times over, a pixel or two apart. Rectangles that are similar,
directly or through others, form a class; each class is replaced by its average, and a class that
lies within a better supported one is dropped.
-/

namespace DeskScript.Vision

structure Rectangle where
  x : Int
  y : Int
  width : Int
  height : Int
  deriving DecidableEq, Repr, Inhabited

namespace Rectangle

def right (r : Rectangle) : Int := r.x + r.width

def bottom (r : Rectangle) : Int := r.y + r.height

/-- Whether no edge of one rectangle is farther from the same edge of the other than a quarter of
the smaller width and the smaller height together. -/
def similar (a b : Rectangle) : Bool :=
  let d := min a.width b.width + min a.height b.height
  let near := fun u v : Int => 4 * (u - v).natAbs ≤ d
  near a.x b.x && near a.y b.y && near a.right b.right && near a.bottom b.bottom

def center (r : Rectangle) : Int × Int := (r.x + r.width.tdiv 2, r.y + r.height.tdiv 2)

end Rectangle

theorem length_partition (p : Rectangle → Bool) (rects : List Rectangle) :
    (rects.partition p).1.length + (rects.partition p).2.length = rects.length := by
  induction rects with
  | nil => rfl
  | cons r rects ih =>
    simp only [List.partition_eq_filter_filter, List.filter_cons] at ih ⊢
    cases h : p r <;> simp [h] <;> omega

/-- Takes from `rest` everything similar to a rectangle of the queue, and then to what was taken. What
is similar to a rectangle has been taken when the same rectangle comes again. -/
def gather (queue members rest : List Rectangle) : List Rectangle × List Rectangle :=
  match queue with
  | [] => (members, rest)
  | r :: queue =>
    if members.head? = some r then gather queue (r :: members) rest
    else
      let parts := rest.partition r.similar
      gather (parts.1 ++ queue) (r :: members) parts.2
termination_by queue.length + rest.length
decreasing_by
  · simp only [List.length_cons]
    omega
  · have := length_partition r.similar rest
    simp only [List.length_cons, List.length_append]
    omega

theorem length_gather (queue members rest : List Rectangle) :
    (gather queue members rest).2.length ≤ rest.length := by
  fun_induction gather queue members rest with
  | case1 members rest => exact Nat.le_refl _
  | case2 members rest r queue h ih => exact ih
  | case3 members rest r queue h parts ih =>
    have : parts.1.length + parts.2.length = rest.length := length_partition r.similar rest
    omega

def classes (rects : List Rectangle) : List (List Rectangle) :=
  match rects with
  | [] => []
  | r :: rest =>
    let found := gather [r] [] rest
    found.1 :: classes found.2
termination_by rects.length
decreasing_by
  have := length_gather [r] [] rest
  simp only [List.length_cons]
  omega

/-- The average of whole numbers in single precision, rounded to the nearest whole number. -/
def average (sum : Int) (count : Nat) : Int :=
  let s := Number.singleOfRatio (sum < 0) sum.natAbs 1
  let share := Number.singleOfRatio false 1 count
  Number.nearest (Number.single (s * share))

structure Cluster where
  rect : Rectangle
  weight : Nat
  deriving DecidableEq, Repr, Inhabited

def Cluster.ofMembers (members : List Rectangle) : Cluster :=
  let mean := fun part : Rectangle → Int => average ((members.map part).foldl (· + ·) 0) members.length
  ⟨⟨mean (·.x), mean (·.y), mean (·.width), mean (·.height)⟩, members.length⟩

/-- Half a length, rounded to the nearest whole number, and between two to the even one. -/
def half (n : Int) : Int := if n % 2 = 0 || n / 2 % 2 = 0 then n / 2 else n / 2 + 1

/-- Whether one cluster lies within the other, enlarged by half its size on each side, and has too
little support to stand beside it. -/
def Cluster.absorbedBy (a b : Cluster) : Bool :=
  let dx := half b.rect.width
  let dy := half b.rect.height
  b.rect.x - dx ≤ a.rect.x && b.rect.y - dy ≤ a.rect.y &&
    a.rect.right ≤ b.rect.right + dx && a.rect.bottom ≤ b.rect.bottom + dy &&
    (max 3 a.weight < b.weight || a.weight < 3)

/-- The clusters with at least two members that no other such cluster absorbs. -/
def survivors (clusters : List Cluster) : List Cluster :=
  let supported := (clusters.filter (1 < ·.weight)).zipIdx
  (supported.filter fun (a, i) => supported.all fun (b, j) => j = i || !a.absorbedBy b).map (·.1)

/-- Groups rectangles: one for each cluster that survives. -/
def group (rects : List Rectangle) : List Rectangle :=
  (survivors ((classes rects).map Cluster.ofMembers)).map (·.rect)

end DeskScript.Vision
