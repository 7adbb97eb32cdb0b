import DeskScript.Capture
import DeskScript.Proofs.Caching

/-!
# What has been pointed out is kept

A place, a color or a region that the user points out is kept under a name, in a file for each of the
three. Each request reads the table of its file, adds to it and writes it anew, and may fail whenever
the user is asked. What is proved is that the files hold, after any number of requests, just what has
been pointed out last under each name.

The argument has two halves. `Captured` says what asking leads to, whatever the user does, and `GoesOn`
whether it comes to asking at all. Together they are the step `Kept.step`, and `Answered.kept` is the
induction over the requests.
-/

namespace DeskScript

section

variable {σ α : Type} {r r' : Routine σ α} {s s' : σ}

theorem Routine.Reaches.asks (reaches : Reaches r s r' s') : r.asks s = r'.asks s' := by
  induction reaches with
  | here => rfl
  | step _ ih => exact ih

theorem Routine.Reaches.ends {post : Except Error α → σ → Prop} (reaches : Reaches r s r' s')
    (ends : r'.Ends post s') : r.Ends post s := by
  induction reaches with
  | here => exact ends
  | step _ ih => exact ih ends

end

theorem Op.reaches_answer {α : Type} (f : Store → Except Error α) (b : Bench) :
    (Op.ask f).Reaches b (liftM (f b.store)) b := .step .here

namespace Capture

/-! ### Numbers as text -/

variable {ns : List Int} {b : Bench}

/-- Whole numbers with no more digits than are written. -/
def Short (ns : List Int) : Prop := ∀ n ∈ ns, n.natAbs < 10 ^ Number.digitLimit

/-- Numbers as they are listed, or the fault of writing them. -/
def written (ns : List Int) : Except Error String := do
  return ", ".intercalate (← ns.mapM Store.intText)

theorem mapM_intText : (∃ texts, ns.mapM Store.intText = .ok texts) ↔ Short ns := by
  induction ns with
  | nil => exact ⟨fun _ => by simp [Short], fun _ => ⟨[], rfl⟩⟩
  | cons n ns ih =>
    rw [List.mapM_cons, Short, List.forall_mem_cons, ← Short, ← ih, Store.intText]
    split
    next long =>
      constructor
      · rintro ⟨_, ⟨⟩⟩
      · exact fun short => (Nat.not_le.mpr short.1 long).elim
    next few =>
      cases ns.mapM Store.intText with
      | error e =>
        constructor
        · rintro ⟨_, ⟨⟩⟩
        · rintro ⟨_, _, ⟨⟩⟩
      | ok texts => exact ⟨fun _ => ⟨Nat.not_le.mp few, texts, rfl⟩, fun _ => ⟨_, rfl⟩⟩

theorem short_of_written {text : String} (ok : written ns = .ok text) : Short ns := by
  obtain ⟨texts, each, -⟩ := bind_ok ok
  exact mapM_intText.mp ⟨texts, each⟩

theorem quotedAt_int (s : Store) (fuel : Nat) (path : List (Kind × Nat)) (n : Int) :
    s.quotedAt (fuel + 1) path (.int n) = Store.intText n := by
  rw [Store.quotedAt]

/-- Short numbers are shown in a tuple and in a list. -/
theorem shown_numbers (short : Short ns) (s : Store) :
    (∃ text, s.shown (.ofItems (ns.map .int)) = .ok text) ∧
      ∀ cell, s.get cell = ns.map .int → ∃ text, s.shown (.list cell) = .ok text := by
  obtain ⟨texts, each⟩ := mapM_intText.mpr short
  have inside (path : List (Kind × Nat)) :
      ((ns.map .int).mapM fun v => s.quotedAt (958 + 1) path v) = .ok texts := by
    rw [List.mapM_map]
    simpa only [Function.comp_def, quotedAt_int] using each
  constructor
  · change ∃ text, s.quotedAt (958 + 1 + 1) [] (.tuple 0 (ns.map .int)) = .ok text
    rw [Store.quotedAt, inside]
    exact ⟨_, rfl⟩
  · intro cell content
    change ∃ text, s.quotedAt (958 + 1 + 1) [] (.list cell) = .ok text
    rw [Store.quotedAt, content, inside]
    exact ⟨_, rfl⟩

theorem reaches_listed (ns : List Int) (b : Bench) :
    (listed (ns.map .int)).Reaches b (liftM (written ns)) b := by
  have loop (done : List String) : (List.mapM.loop Op.shown (ns.map .int) done).Reaches b
      (liftM (List.mapM.loop Store.intText ns done)) b := by
    induction ns generalizing done with
    | nil => exact .here
    | cons n ns ih =>
      have first := Op.reaches_answer (fun s => s.quotedAt (959 + 1) [] (.int n)) b
      rw [quotedAt_int] at first
      refine (first.bind _).trans ?_
      rw [List.mapM.loop]
      cases Store.intText n with
      | error e => exact .here
      | ok text => exact ih (text :: done)
  refine ((loop []).bind _).trans ?_
  change Routine.Reaches (liftM (ns.mapM Store.intText) >>= _) b (liftM (ns.mapM Store.intText >>= _)) b
  cases ns.mapM Store.intText <;> exact .here

/-! ### What is asked for -/

/-- What a user can be asked to point out. -/
inductive Subject where
  | place | color | region
  deriving DecidableEq

/-- The file in which it is kept. -/
def Subject.path : Subject → String
  | place => CacheKind.coordinates.path
  | color => CacheKind.colors.path
  | region => Cache.regionsPath

/-- A request for something under a name. What is kept under it may do. -/
structure Inquiry where
  subject : Subject
  name : String
  cached : Bool

/-- A tuple of whole numbers. -/
def tuple (ns : List Int) : Value := .ofItems (ns.map .int)

def Inquiry.op (q : Inquiry) : Op Value :=
  match q.subject with
  | .place => do return .ofItems (← coordinates q.name q.cached)
  | .color => do return .ofItems (← color q.name q.cached)
  | .region => region q.name !q.cached

/-- Numbers of a kind: the corners of a region are in order. -/
def Subject.Sound : Subject → List Int → Prop
  | place, ns => ns.length = 2
  | color, ns => ns.length = 3
  | region, ns => ∃ left top right bottom, ns = [left, top, right, bottom] ∧ left ≤ right ∧ top ≤ bottom

/-- The document that numbers are kept as. -/
def document (ns : List Int) : Json := .array (ns.map .int)

/-- Something has been pointed out under a name and added to the table of the others, or else the files are
as they were. -/
def Captured (subject : Subject) (name : String) (members : List (String × Json)) (f : Files) :
    Except Error Value → Bench → Prop
  | .ok v, b => ∃ ns, v = tuple ns ∧ subject.Sound ns ∧ Short ns ∧ b.desk.files =
      f.put [subject.path] (.text (Json.object (Json.setMember name (document ns) members)).write)
  | .error _, b => b.desk.files = f

-- The limit of digits is a number that must not be computed.
attribute [local irreducible] Store.intText

/-! ### Pointing -/

section

variable {α : Type} {members : List (String × Json)} {name : String}
variable {post : Except Error α → Bench → Prop} {next : Op α}

/-- The bench once the user has moved the cursor. -/
def pointing (b : Bench) (cursor : Point) : Bench := { b with desk := { b.desk with cursor } }

/-- Failing in the middle leaves the files as they are. -/
abbrev Fails (post : Except Error α → Bench → Prop) (b : Bench) : Prop :=
  ∀ e b', b'.desk.files = b.desk.files → post (.error e) b'

theorem ends_say {t : String} (ends : next.Ends post b) : (do Action.sayLine t; next : Op α).Ends post b := ends

theorem ends_ask (prompt : String) (fails : Fails post b) (ends : ∀ p, next.Ends post (pointing b p)) :
    (do let _ ← Action.ask prompt; next : Op α).Ends post b := by
  refine ⟨fails _ b rfl, fun reply => ?_⟩
  obtain ⟨cursor, _ | _, line⟩ := reply
  · exact ends _
  · exact fails _ _ rfl

theorem ends_instruct {title hover press : String} (fails : Fails post b) (ends : ∀ p, next.Ends post (pointing b p)) :
    (do instruct title hover press; next : Op α).Ends post b := by
  refine ⟨fails _ b rfl, fun reply => ?_⟩
  obtain ⟨cursor, _ | _, line⟩ := reply
  · exact ends _
  · exact fails _ _ rfl

theorem ends_listed {next : String → Op α} (ns : List Int) (fails : Fails post b)
    (ends : ∀ text, Short ns → (next text).Ends post b) : (listed (ns.map .int) >>= next).Ends post b := by
  refine ((reaches_listed ns b).bind next).ends ?_
  cases told : written ns with
  | error e => exact fails e b rfl
  | ok text => exact ends text (short_of_written told)

/-- Numbers are added to the table of a kind. -/
theorem ends_keep {post : Except Error (List Value) → Bench → Prop} (kind : CacheKind) (noun : String)
    (table : b.desk.files.Table kind.path members) (ns : List Int)
    (ends : ∀ b', b'.desk.files = b.desk.files.put [kind.path]
      (.text (Json.object (Json.setMember name (document ns) members)).write) → post (.ok (ns.map .int)) b') :
    (liftM (keep kind noun name ns) : Op (List Value)).Ends post b := by
  have stored := Op.reaches_ofAction ((Cache.reaches_store kind table name (document ns)).bind fun _ => do
    Action.sayLine s!"✓ Saved {noun} to cache for '{name}'"
    return ns.map Value.int) b
  exact stored.ends (ends _ rfl)

theorem captured_place (table : b.desk.files.Table Subject.place.path members) :
    (do return .ofItems (← pointedPlace name) : Op Value).Ends (Captured .place name members b.desk.files) b := by
  refine Routine.ends_bind.mpr (ends_instruct (fun _ _ same => same) fun p => ?_)
  refine ends_listed (b := pointing b p) [p.x, p.y] (fun _ _ same => same) fun text short => ?_
  refine ends_keep (b := pointing b p) .coordinates "coordinates" table [p.x, p.y] fun b' files => ?_
  exact ⟨_, rfl, rfl, short, files⟩

theorem ends_pixelAt {x y : Int} {next : Color → Op α} (fails : Fails post b)
    (ends : ∀ acts, (next (b.desk.screen.colorAt x y)).Ends post { b with desk.acts := acts }) :
    (liftM (pixelAt x y) >>= next).Ends post b := by
  cases checked : checkGrab x y (x + 1) (y + 1) with
  | error e =>
    have start : (liftM (pixelAt x y) >>= next).Reaches b (.fail e) _ := .step (by rw [checked]; exact .here)
    exact start.ends (fails e _ rfl)
  | ok _ =>
    have start : (liftM (pixelAt x y) >>= next).Reaches b (next (b.desk.screen.colorAt x y)) _ :=
      .step (by rw [checked]; exact .step .here)
    exact start.ends (ends _)

theorem captured_color (table : b.desk.files.Table Subject.color.path members) :
    (do return .ofItems (← pointedColor name) : Op Value).Ends (Captured .color name members b.desk.files) b := by
  refine Routine.ends_bind.mpr (ends_instruct (fun _ _ same => same) fun p => ?_)
  refine ends_pixelAt (b := pointing b p) (x := p.x) (y := p.y) (fun _ _ same => same) fun acts => ?_
  refine ends_listed [p.x, p.y] (fun _ _ same => same) fun _ _ => ?_
  refine ends_listed [_, _, _] (fun _ _ same => same) fun _ short => ?_
  refine ends_keep (b := { pointing b p with desk.acts := acts }) .colors "color" table _ fun b' files => ?_
  exact ⟨_, rfl, rfl, short, files⟩

theorem ends_corner {step corner : String} {post : Except Error Point → Bench → Prop} (fails : Fails post b)
    (ends : ∀ p, Short [p.x, p.y] → post (.ok p) (pointing b p)) : (pointedCorner step corner).Ends post b := by
  refine ends_ask "" fails fun p => ?_
  exact ends_listed (b := pointing b p) [p.x, p.y] fails fun _ short => ends p short

theorem short_corners {p q : Point} (first : Short [p.x, p.y]) (second : Short [q.x, q.y]) :
    Short [min p.x q.x, min p.y q.y, max p.x q.x, max p.y q.y] := by
  unfold Short at *
  generalize 10 ^ Number.digitLimit = limit at *
  simp only [List.forall_mem_cons, List.not_mem_nil, false_implies, implies_true, and_true] at *
  omega

theorem captured_region (table : b.desk.files.Table Subject.region.path members) :
    (pointedRegion (.object members) name).Ends (Captured .region name members b.desk.files) b := by
  refine ends_say (Routine.ends_bind.mpr (ends_corner (fun _ _ same => same) fun p first => ?_))
  refine Routine.ends_bind.mpr (ends_corner (b := pointing b p) (fun _ _ same => same) fun q second => ?_)
  let corners := [min p.x q.x, min p.y q.y, max p.x q.x, max p.y q.y]
  have short : Short corners := short_corners first second
  obtain ⟨text, told⟩ := (shown_numbers short b.store).1
  let showing (text : String) : Op Value := do
    Action.sayLine s!"Region '{name}' captured and cached: {text}\n"
    return tuple corners
  have wrote := (Op.reaches_ofAction (Cache.reaches_writeDocument (d := (pointing b q).desk)
    Cache.plain_regionsPath table.opened (.object (Json.setMember name (document corners) members)))
    (pointing b q)).bind fun _ => Op.shown (tuple corners) >>= showing
  have shown (b' : Bench) (same : b'.store = b.store) :
      (Op.shown (tuple corners) >>= showing).Reaches b' (showing text) b' :=
    Routine.Reaches.bind (Op.reaches_ask (same ▸ told)) showing
  exact (wrote.trans (shown _ rfl)).ends ⟨corners, rfl, ⟨_, _, _, _, rfl, min_le_max, min_le_max⟩, short, rfl⟩

/-- The user is asked for it, whatever is kept. -/
def Subject.asking (subject : Subject) (name : String) (members : List (String × Json)) : Op Value :=
  match subject with
  | place => do return .ofItems (← pointedPlace name)
  | color => do return .ofItems (← pointedColor name)
  | region => pointedRegion (.object members) name

theorem ends_asking {subject : Subject} (table : b.desk.files.Table subject.path members) :
    (subject.asking name members).Ends (Captured subject name members b.desk.files) b := by
  cases subject with
  | place => exact captured_place table
  | color => exact captured_color table
  | region => exact captured_region table

/-! ### Recalling -/

/-- How a request goes on: with what is known, or else by asking. -/
inductive GoesOn (asking : Op Value) (b : Bench) : Option (List Int) → Op Value → Prop
  | recalled (t : String) {ns : List Int} {rest : Op Value} (reaches : rest.Reaches b (pure (tuple ns)) b) :
    GoesOn asking b (some ns) (do Action.sayLine t; rest)
  | asking : GoesOn asking b none asking
  | warned (t : String) : GoesOn asking b none (do Action.sayLine t; asking)

variable {asking : Op Value} {known : Option (List Int)}

theorem GoesOn.asks {next : Op Value} (goes : GoesOn asking b known next) (asked : asking.asks b = true) :
    next.asks b = known.isNone := by
  cases goes with
  | recalled t reaches => exact reaches.asks
  | asking => exact asked
  | warned t => exact asked

theorem GoesOn.ends {next : Op Value} {post : Except Error Value → Bench → Prop}
    (goes : GoesOn asking b known next) (recalled : ∀ ns, known = some ns → post (.ok (tuple ns)) b)
    (asked : known = none → asking.Ends post b) : next.Ends post b := by
  cases goes with
  | recalled t reaches => exact reaches.ends (recalled _ rfl)
  | asking => exact asked rfl
  | warned t => exact asked rfl

/-- What is known under a name is found as a list of the store. -/
theorem reaches_known (under : members.lookup name = known.map document) (b : Bench) :
    ∃ s, (known = none ∧ (Cache.lookup? (.object members) name).Reaches b (pure none) { b with store := s }) ∨
      ∃ ns cell, known = some ns ∧ s.get cell = ns.map .int ∧
        (Cache.lookup? (.object members) name).Reaches b (pure (some (.list cell))) { b with store := s } := by
  obtain ⟨found, s, -, looked, ⟨missing, rfl⟩ | ⟨j, v, there, rfl, stands⟩⟩ := Cache.reaches_lookup? members name b
  · exact ⟨s, .inl ⟨Option.map_eq_none_iff.mp (under.symm.trans missing), looked⟩⟩
  · obtain ⟨ns, same, rfl⟩ := Option.map_eq_some_iff.mp (under.symm.trans there)
    rw [document, Store.Stands] at stands
    obtain ⟨cell, -, rfl, each⟩ := stands
    exact ⟨s, .inr ⟨ns, cell, same, each.ints, looked⟩⟩

theorem reaches_keptOr {kind : CacheKind} {noun label : String} {count : ℕ}
    (table : b.desk.files.Table kind.path members) (under : members.lookup name = known.map document)
    (sound : ∀ ns ∈ known, ns.length = count ∧ Short ns) (cached : Bool) (pointOut : Op (List Value)) :
    ∃ s next, (do return .ofItems (← keptOr kind noun label count name cached pointOut) : Op Value).Reaches b next
        { b with store := s } ∧
      GoesOn (do return .ofItems (← pointOut)) { b with store := s } (if cached then known else none) next := by
  have loaded := Op.reaches_ofAction (Cache.reaches_load kind (Cache.plain_path _) table) b
  cases cached with
  | false => exact ⟨b.store, _, .here, .asking⟩
  | true =>
    obtain ⟨s, ⟨rfl, looked⟩ | ⟨ns, cell, rfl, content, looked⟩⟩ := reaches_known under b
    · exact ⟨s, _, (((loaded.bind _).trans (looked.bind _)).bind _).bind _, .warned _⟩
    · obtain ⟨fits, short⟩ := sound ns rfl
      obtain ⟨texts, each⟩ := mapM_intText.mpr short
      have unpacked : s.unpack count (.list cell) = .ok (ns.map .int) := by
        simp [Store.unpack, Store.items?, content, fits]
      have asked : (Op.ask fun s => s.unpack count (.list cell)).Reaches { b with store := s } _ _ :=
        Op.reaches_ask unpacked
      have told := reaches_listed ns { b with store := s }
      rw [written, each] at told
      have start : (kept? kind count name).Reaches b (pure (some (ns.map .int))) { b with store := s } :=
        ((loaded.bind _).trans (looked.bind _)).trans (asked.bind fun values => pure (some values))
      exact ⟨s, _, ((start.bind _).trans (told.bind _)).bind _, .recalled _ .here⟩

/-- A region is recalled from the table of regions. -/
theorem reaches_region (table : b.desk.files.Table Cache.regionsPath members)
    (under : members.lookup name = known.map document) (short : ∀ ns ∈ known, Short ns) (cached : Bool) :
    ∃ s next, (region name !cached).Reaches b next { b with store := s } ∧
      GoesOn (pointedRegion (.object members) name) { b with store := s } (if cached then known else none) next := by
  have loaded := Op.reaches_ofAction (Cache.reaches_loadRegions table) b
  cases cached with
  | false => exact ⟨b.store, _, loaded.bind _, .asking⟩
  | true =>
    obtain ⟨s, ⟨rfl, looked⟩ | ⟨ns, cell, rfl, content, looked⟩⟩ := reaches_known under b
    · exact ⟨s, _, (loaded.bind _).trans (looked.bind _), .asking⟩
    · obtain ⟨text, told⟩ := (shown_numbers (short ns rfl) s).2 cell content
      have shown : (Op.shown (.list cell)).Reaches { b with store := s } _ _ := Op.reaches_ask told
      have taken : (Op.ask fun s => s.items (.list cell)).Reaches { b with store := s } (pure (ns.map .int)) _ :=
        Op.reaches_ask (by rw [← content]; rfl)
      exact ⟨s, _, ((loaded.bind _).trans (looked.bind _)).trans (shown.bind _),
        .recalled _ (taken.bind fun items => pure (Value.ofItems items))⟩

/-! ### What is kept -/

/-- The numbers that are known under each name. -/
abbrev Memory := Subject → String → Option (List Int)

def Memory.put (m : Memory) (q : Inquiry) (ns : List Int) : Memory := fun subject name =>
  if subject = q.subject ∧ name = q.name then some ns else m subject name

/-- The files hold what is known, and nothing else. -/
structure Kept (f : Files) (m : Memory) : Prop where
  table : ∀ subject : Subject, ∃ members, f.Table subject.path members ∧ Json.Readable 2 (.object members) ∧
    ∀ name, members.lookup name = (m subject name).map document
  sound : ∀ subject name, ∀ ns ∈ m subject name, subject.Sound ns ∧ Short ns

/-- What is known and may be used. -/
def Inquiry.known? (q : Inquiry) (m : Memory) : Option (List Int) := if q.cached then m q.subject q.name else none

/-- The end of a request: the answer is what is known under the name, or else what has been captured and is
known from then on. -/
inductive Inquiry.Answer (q : Inquiry) (m : Memory) (f : Files) : Except Error Value → Files → Prop
  | recalled {ns : List Int} (known : q.known? m = some ns) : q.Answer m f (.ok (tuple ns)) f
  | captured {ns : List Int} {f' : Files} (unknown : q.known? m = none) (sound : q.subject.Sound ns)
      (kept : Kept f' (m.put q ns)) : q.Answer m f (.ok (tuple ns)) f'
  | failed {e : Error} (unknown : q.known? m = none) : q.Answer m f (.error e) f

variable {m : Memory} {q : Inquiry} {f f' : Files}

theorem Subject.path_injective {s s' : Subject} (same : s.path = s'.path) : s = s' := by
  cases s <;> cases s' <;> first | rfl | exact absurd same (by decide +kernel)

theorem Kept.put (kept : Kept f m) (whole : Text.Whole q.name) (table : f.Table q.subject.path members)
    (readable : Json.Readable 2 (.object members))
    (under : ∀ name, members.lookup name = (m q.subject name).map document) (sound : q.subject.Sound ns)
    (short : Short ns) :
    Kept (f.put [q.subject.path] (.text (Json.object (Json.setMember q.name (document ns) members)).write))
      (m.put q ns) := by
  have numbers : Json.Readable 1 (document ns) := by
    refine .array fun j member => ?_
    obtain ⟨n, there, rfl⟩ := List.mem_map.mp member
    exact .int (short n there)
  have added := readable.setMember whole numbers
  refine ⟨fun subject => ?_, fun subject name ns' known => ?_⟩
  · by_cases same : subject = q.subject
    · subst same
      refine ⟨_, table.opened.table_put added (by decide), added, fun name => ?_⟩
      rw [Json.lookup_setMember]
      by_cases here : name = q.name
      · simp [Memory.put, here]
      · simp [Memory.put, here, under]
    · obtain ⟨members', table', readable', under'⟩ := kept.table subject
      refine ⟨members', table'.put_other (fun path => same (Subject.path_injective path)) _, readable', fun name => ?_⟩
      simp [Memory.put, same, under']
  · simp only [Memory.put] at known
    split at known
    next here =>
      cases known
      exact here.1 ▸ ⟨sound, short⟩
    next => exact kept.sound subject name ns' known

theorem Kept.reaches_op (kept : Kept b.desk.files m) (table : b.desk.files.Table q.subject.path members)
    (under : ∀ name, members.lookup name = (m q.subject name).map document) :
    ∃ s next, q.op.Reaches b next { b with store := s } ∧
      GoesOn (q.subject.asking q.name members) { b with store := s } (q.known? m) next := by
  obtain ⟨subject, name, cached⟩ := q
  have sound := kept.sound subject name
  cases subject with
  | place => exact reaches_keptOr table (under name) sound cached _
  | color => exact reaches_keptOr table (under name) sound cached _
  | region => exact reaches_region table (under name) (fun ns known => (sound ns known).2) cached

/-- One request: it answers with what is known, without asking, or with what the user points out. -/
theorem Kept.step (kept : Kept b.desk.files m) (whole : Text.Whole q.name) :
    q.op.asks b = (q.known? m).isNone ∧
      q.op.Ends (fun result b' => q.Answer m b.desk.files result b'.desk.files) b := by
  obtain ⟨members, table, readable, under⟩ := kept.table q.subject
  obtain ⟨s, next, reaches, goes⟩ := kept.reaches_op table under
  have asked : (q.subject.asking q.name members).asks { b with store := s } = true := by
    cases q.subject <;> rfl
  refine ⟨reaches.asks.trans (goes.asks asked), reaches.ends (goes.ends (fun ns known => ?_) fun unknown => ?_)⟩
  · exact .recalled known
  · refine (ends_asking (b := { b with store := s }) table).mono fun result b' captured => ?_
    cases result with
    | error e =>
      rw [show b'.desk.files = b.desk.files from captured]
      exact .failed unknown
    | ok v =>
      obtain ⟨ns, rfl, sound, short, files⟩ := captured
      exact .captured unknown sound (files ▸ kept.put whole table readable under sound short)

end

/-! ### Request after request -/

/-- What has become of a request. -/
structure Outcome where
  inquiry : Inquiry
  asked : Bool
  result : Except Error Value

/-- Requests that have been answered one after the other, whatever else has happened in between. -/
inductive Answered (f : Files) : List Outcome → Files → Prop
  | nil : Answered f [] f
  | snoc {history : List Outcome} {b b' : Bench} {c c' : Console} {result : Except Error Value} (q : Inquiry)
      (before : Answered f history b.desk.files) (runs : q.op.run (b, c) = ending result (b', c')) :
      Answered f (history ++ [⟨q, q.op.asks b, result⟩]) b'.desk.files

/-- What has been captured under a name. -/
def Outcome.captured? (o : Outcome) (subject : Subject) (name : String) : Option Value :=
  if o.asked ∧ o.inquiry.subject = subject ∧ o.inquiry.name = name then o.result.toOption else none

/-- What has been captured last under a name. -/
def latest (history : List Outcome) (subject : Subject) (name : String) : Option Value :=
  history.reverse.findSome? (·.captured? subject name)

theorem latest_snoc (history : List Outcome) (o : Outcome) (subject : Subject) (name : String) :
    latest (history ++ [o]) subject name = (o.captured? subject name).or (latest history subject name) := by
  rw [latest, List.reverse_append, List.reverse_singleton, List.singleton_append, List.findSome?_cons]
  cases o.captured? subject name <;> rfl

variable {m : Memory} {q : Inquiry} {f f' : Files} {history : List Outcome} {result : Except Error Value}

theorem Inquiry.Answer.sound {v : Value} (kept : Kept f m) (answer : q.Answer m f (.ok v) f') :
    ∃ ns, v = tuple ns ∧ q.subject.Sound ns := by
  cases answer with
  | recalled known => exact ⟨_, rfl, (kept.sound _ _ _ (Option.ite_none_right_eq_some.mp known).2).1⟩
  | captured _ sound _ => exact ⟨_, rfl, sound⟩

theorem Inquiry.Answer.latest (kept : Kept f m) (answer : q.Answer m f result f')
    (last : ∀ subject name, latest history subject name = (m subject name).map tuple) :
    ∃ m' : Memory, (∀ subject name, Capture.latest (history ++ [⟨q, (q.known? m).isNone, result⟩]) subject name =
      (m' subject name).map tuple) ∧ Kept f' m' := by
  cases answer with
  | recalled known => exact ⟨m, by simp [latest_snoc, last, Outcome.captured?, known], kept⟩
  | captured unknown _ kept' =>
    refine ⟨_, fun subject name => ?_, kept'⟩
    rw [latest_snoc, last, Memory.put, Outcome.captured?, unknown]
    by_cases here : subject = q.subject ∧ name = q.name
    · simp [here, Except.toOption]
    · have other : ¬(q.subject = subject ∧ q.name = name) := fun both => here ⟨both.1.symm, both.2.symm⟩
      simp [here, other]
  | failed _ => exact ⟨m, by simp [latest_snoc, last, Outcome.captured?, Except.toOption], kept⟩

theorem Answered.kept (answered : Answered f history f')
    (fresh : ∀ subject : Subject, f.Open subject.path ∧ f.lookup? [subject.path] = none)
    (whole : ∀ o ∈ history, Text.Whole o.inquiry.name) :
    ∃ m : Memory, (∀ subject name, latest history subject name = (m subject name).map tuple) ∧ Kept f' m ∧
      ∀ o ∈ history, ∀ v, o.result = .ok v → ∃ ns, v = tuple ns ∧ o.inquiry.subject.Sound ns := by
  induction answered with
  | nil =>
    refine ⟨fun _ _ => none, fun _ _ => rfl, ⟨fun subject => ?_, by simp⟩, by simp⟩
    exact ⟨[], ⟨(fresh subject).1, .inl ⟨(fresh subject).2, rfl⟩⟩, .object (by simp) (by simp) List.nodup_nil,
      fun _ => rfl⟩
  | @snoc _ b _ c _ _ q before runs ih =>
    obtain ⟨m, last, kept, sound⟩ := ih fun o there => whole o (List.mem_append_left _ there)
    obtain ⟨asks, ends⟩ := kept.step (q := q) (whole _ (List.mem_append_right _ List.mem_cons_self))
    obtain ⟨result, b', c', run, answer⟩ := ends.run c
    obtain ⟨rfl, same⟩ := ending_injective (runs.symm.trans run)
    cases same
    obtain ⟨m', last', kept'⟩ := answer.latest kept last
    refine ⟨m', asks ▸ last', kept', fun o there v ok => ?_⟩
    rcases List.mem_append.mp there with old | new
    · exact sound o old v ok
    · cases List.mem_singleton.mp new
      cases ok
      exact answer.sound kept

/-- Whatever has been asked for in a directory without such files: what was captured last under each name
is what the files hold. A request that may use it answers with it and does not ask, any other one asks and
captures, and one that fails leaves the files alone. The corners of a region are always in order. -/
theorem latest_capture_recalled
    (fresh : ∀ subject : Subject, f.Open subject.path ∧ f.lookup? [subject.path] = none)
    (whole : ∀ o ∈ history, Text.Whole o.inquiry.name) (answered : Answered f history f') :
    ∃ m : Memory, (∀ subject name, latest history subject name = (m subject name).map tuple) ∧ Kept f' m ∧
      (∀ o ∈ history, ∀ v, o.result = .ok v → ∃ ns, v = tuple ns ∧ o.inquiry.subject.Sound ns) ∧
      ∀ (q : Inquiry) (b : Bench) (c : Console), b.desk.files = f' → Text.Whole q.name →
        q.op.asks b = (q.known? m).isNone ∧ ∃ result b' c', q.op.run (b, c) = ending result (b', c') ∧
          q.Answer m f' result b'.desk.files := by
  obtain ⟨m, last, kept, sound⟩ := answered.kept fresh whole
  refine ⟨m, last, kept, sound, fun q b c files named => ?_⟩
  subst files
  obtain ⟨asks, ends⟩ := kept.step named
  exact ⟨asks, ends.run c⟩

/-- A place that is pointed out under a name is kept under it. -/
theorem latest_capture_recalled_spot : ∃ history f' m v, Answered {} history f' ∧
    latest history .place "spot" = some v ∧ Kept f' m ∧ (m .place "spot").map tuple = some v := by
  let q : Inquiry := ⟨.place, "spot", true⟩
  let b : Bench := ⟨{}, default, ""⟩
  let c : Console := { replies := [{ cursor := some ⟨3, 4⟩ }] }
  obtain ⟨result, ⟨b', c'⟩, ran⟩ := exists_ending (q.op.run (b, c))
  have captured : (latest [⟨q, q.op.asks b, result⟩] .place "spot").isSome := by
    have ok : (EStateM.run' q.op.run (b, c)).isSome ∧ q.op.asks b := by decide +kernel
    rw [EStateM.run', EStateM.run, ran] at ok
    cases result with
    | error e => cases ok.1
    | ok v => simp [latest, Outcome.captured?, ok.2, q, Except.toOption]
  obtain ⟨v, known⟩ := Option.isSome_iff_exists.mp captured
  have whole : Text.Whole "spot" := ⟨[115, 112, 111, 116], by decide, by decide +kernel⟩
  have answered : Answered {} _ b'.desk.files := .snoc q .nil ran
  obtain ⟨m, last, kept, -⟩ := latest_capture_recalled (f := {})
    (fun subject => ⟨⟨rfl, by cases subject <;> decide +kernel⟩, rfl⟩)
    (fun o there => List.mem_singleton.mp there ▸ whole) answered
  exact ⟨_, _, m, v, answered, known, kept, (last _ _).symm.trans known⟩

end Capture

end DeskScript
