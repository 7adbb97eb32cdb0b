import DeskScript.Proofs.Console
import DeskScript.Proofs.Innocent

/-!
# Routines that blame no tree

What a routine does is done in steps, so that it blames no tree is a matter of its steps: no step
fails with such an error, and each step keeps what has to be kept. Everything that devices do is
shown to be mild in this sense, one short lemma for each action.
-/

namespace DeskScript

namespace Routine

variable {σ α β : Type} {inv : σ → Prop} {fine : Error → Prop} {post : α → Prop} {items : List β}

/-- A routine that keeps an invariant whatever comes from the console, and whose error or result is as
it should be. -/
def Obeys (inv : σ → Prop) (fine : Error → Prop) (post : α → Prop) : Routine σ α → Prop
  | done a => post a
  | fail e => fine e
  | step f next => ∀ s, inv s → inv (f s).2 ∧ (next (f s).1).Obeys inv fine post
  | say _ _ next => next.Obeys inv fine post
  | ask _ _ next => ∀ reply, (next reply).Obeys inv fine post

theorem Obeys.run {r : Routine σ α} (obeys : r.Obeys inv fine post) (atEnd : fine .endOfInput) {s : σ}
    (holds : inv s) (c : Console) : ∃ result s' c', r.run (s, c) = ending result (s', c') ∧ inv s' ∧
      (∀ e, result = .error e → fine e) ∧ ∀ a, result = .ok a → post a := by
  induction r generalizing s c with
  | done a => exact ⟨.ok a, s, c, rfl, holds, nofun, by rintro _ ⟨⟩; exact obeys⟩
  | fail e => exact ⟨.error e, s, c, rfl, holds, by rintro _ ⟨⟩; exact obeys, nofun⟩
  | step f next ih =>
    obtain ⟨holds', rest⟩ := obeys s holds
    exact ih (f s).1 rest holds' c
  | say speaker t next ih => exact ih obeys holds (c.say speaker t)
  | ask speaker prompt next ih =>
    obtain ⟨replies, printed⟩ := c
    cases replies with
    | nil => exact ⟨.error .endOfInput, s, _, rfl, holds, by rintro _ ⟨⟩; exact atEnd, nofun⟩
    | cons reply replies => exact ih reply (obeys reply) holds _

theorem Obeys.bind {mid : β → Prop} {x : Routine σ β} {f : β → Routine σ α}
    (first : x.Obeys inv fine mid) (rest : ∀ b, mid b → (f b).Obeys inv fine post) :
    (x >>= f).Obeys inv fine post := by
  induction x with
  | done a => exact rest a first
  | fail e => exact first
  | step g next ih => exact fun s holds => ⟨(first s holds).1, ih (g s).1 (first s holds).2⟩
  | say speaker t next ih => exact ih first
  | ask speaker prompt next ih => exact fun reply => ih reply (first reply)

theorem Obeys.mono {inv' : σ → Prop} {fine' : Error → Prop} {post' : α → Prop} {r : Routine σ α}
    (obeys : r.Obeys inv fine post) (same : ∀ s, inv' s ↔ inv s) (errors : ∀ e, fine e → fine' e)
    (results : ∀ a, post a → post' a) : r.Obeys inv' fine' post' := by
  induction r with
  | done a => exact results a obeys
  | fail e => exact errors e obeys
  | step f next ih =>
    intro s holds
    obtain ⟨holds', rest⟩ := obeys s ((same s).mp holds)
    exact ⟨(same _).mpr holds', ih _ rest⟩
  | say speaker t next ih => exact ih obeys
  | ask speaker prompt next ih => exact fun reply => ih reply (obeys reply)

/-- A routine that keeps an invariant whatever comes from the console, and that blames no tree. -/
def Mild (inv : σ → Prop) (r : Routine σ α) : Prop :=
  r.Obeys inv (fun e => e.blamesTree = false) fun _ => True

theorem Mild.run {r : Routine σ α} (mild : r.Mild inv) {s : σ} (holds : inv s) (c : Console) :
    ∃ result s' c', r.run (s, c) = ending result (s', c') ∧ inv s' ∧
      ∀ e, result = .error e → e.blamesTree = false := by
  obtain ⟨result, s', c', ran, holds', fine, -⟩ := Obeys.run mild rfl holds c
  exact ⟨result, s', c', ran, holds', fine⟩

@[grind =] theorem mild_pure (a : α) : Mild inv (pure a) ↔ True := .rfl

@[grind =] theorem mild_throw (e : Error) :
    Mild inv (throw e : Routine σ α) ↔ e.blamesTree = false := .rfl

@[grind ←] theorem Mild.bind {x : Routine σ β} {f : β → Routine σ α} (first : x.Mild inv)
    (rest : ∀ b, (f b).Mild inv) : (x >>= f).Mild inv :=
  Obeys.bind first fun b _ => rest b

@[grind ←] theorem Mild.rescue {x : Routine σ α} {handle : Error → Routine σ α} (first : x.Mild inv)
    (rest : ∀ e, (handle e).Mild inv) : (tryCatch x handle).Mild inv := by
  induction x with
  | done a => trivial
  | fail e => exact rest e
  | step g next ih => exact fun s holds => ⟨(first s holds).1, ih (g s).1 (first s holds).2⟩
  | say speaker t next ih => exact ih first
  | ask speaker prompt next ih => exact fun reply => ih reply (first reply)

@[grind ←] theorem mild_lift {x : Except Error α} (innocent : Innocent x) :
    Mild inv (liftM x : Routine σ α) := by
  cases x with
  | error e => exact innocent
  | ok a => trivial

@[grind ←] theorem mild_forM {f : β → Routine σ PUnit} (each : ∀ b ∈ items, (f b).Mild inv) :
    (items.forM f).Mild inv := by
  induction items with
  | nil => trivial
  | cons b rest ih =>
    exact Mild.bind (each b List.mem_cons_self) fun _ =>
      ih fun b member => each b (List.mem_cons_of_mem _ member)

end Routine

/-- An action leaves everything on the bench but the desk as it is. -/
theorem Op.obeys_action {α : Type} {inv : Bench → Prop} {inv' : Desk → Prop} {fine : Error → Prop}
    {post : α → Prop} {a : Action α} (obeys : Routine.Obeys inv' fine post a)
    (below : ∀ b, inv b → inv' b.desk) (above : ∀ b desk, inv b → inv' desk → inv { b with desk }) :
    Routine.Obeys inv fine post (liftM a : Op α) := by
  change Routine.Obeys inv fine post (ofAction a)
  induction a with
  | done a => exact obeys
  | fail e => exact obeys
  | step f next ih =>
    intro b holds
    obtain ⟨holds', rest⟩ := obeys b.desk (below b holds)
    exact ⟨above b _ holds holds', ih _ rest⟩
  | say speaker t next ih => exact ih obeys
  | ask speaker prompt next ih => exact fun reply => ih reply (obeys reply)

/-- An action that blames no tree. -/
abbrev Action.Mild {α : Type} (a : Action α) : Prop := Routine.Mild (fun _ => True) a

namespace Action

open Routine

@[grind ←] theorem mild_get : (get : Action Desk).Mild := fun _ _ => ⟨trivial, trivial⟩
@[grind ←] theorem mild_modify (f : Desk → Desk) : (modify f : Action Unit).Mild := fun _ _ => ⟨trivial, trivial⟩
@[grind ←] theorem mild_modifyGet {α : Type} (f : Desk → α × Desk) : (modifyGet f : Action α).Mild := fun _ _ => ⟨trivial, trivial⟩
@[grind ←] theorem mild_sayAs (speaker : Speaker) (s : String) : (sayAs speaker s).Mild := trivial
@[grind ←] theorem mild_sayLine (s : String) : (sayLine s).Mild := trivial
@[grind ←] theorem mild_note (act : DeviceAct) : (note act).Mild := mild_modify _
@[grind ←] theorem mild_random : random.Mild := mild_modifyGet _

@[grind ←] theorem mild_askAs (speaker : Speaker) (prompt : String) : (askAs speaker prompt).Mild := by
  intro reply
  exact Mild.bind (mild_modify _) fun _ => by grind

@[grind ←] theorem mild_ask (prompt : String) : (ask prompt).Mild := mild_askAs _ _

@[grind ←] theorem mild_heard (f : Desk → List String × Desk) : (heard f).Mild := by
  unfold heard
  grind

@[grind ←] theorem mild_deliverNext : deliverNext.Mild := by
  unfold deliverNext
  grind

@[grind ←] theorem mild_sleep (seconds : Float) : (sleep seconds).Mild := by
  unfold sleep
  grind

end Action

/-! ### Devices -/

namespace Chance

@[grind ←] theorem innocent_floor (x : Float) : Innocent (floor x) := by
  unfold floor
  grind

@[grind ←] theorem innocent_bound (v : Value) (fault : ValueFault) : Innocent (bound v fault) := by
  unfold bound
  split
  · trivial
  · refine innocent_bind v.innocent_toInt fun i => ?_
    grind

@[grind ←] theorem mild_uniform (low high : Value) : (uniform low high).Mild := by
  unfold uniform
  grind

@[grind ←] theorem mild_uniformReal (low high : Float) : (uniformReal low high).Mild := by
  unfold uniformReal
  grind

@[grind ←] theorem mild_drawBelow (limit : Float) (fuel : Nat) : (drawBelow limit fuel).Mild := by
  induction fuel with
  | zero => rfl
  | succ fuel ih =>
    unfold drawBelow
    grind

@[grind ←] theorem mild_below (n : Int) : (below n).Mild := by
  unfold below
  grind

@[grind ←] theorem mild_choice {α : Type} (a b : α) : (choice a b).Mild := by
  unfold choice
  grind

end Chance

namespace Capture

@[grind ←] theorem innocent_checkCoordinate (n : Int) : Innocent (checkCoordinate n) := by
  unfold checkCoordinate
  grind

@[grind ←] theorem innocent_checkGrab (left top right bottom : Int) :
    Innocent (checkGrab left top right bottom) := by
  unfold checkGrab
  grind

@[grind ←] theorem mild_grab (left top right bottom : Int) : (grab left top right bottom).Mild := by
  unfold grab
  grind

@[grind ←] theorem mild_pixelAt (x y : Int) : (pixelAt x y).Mild := by
  unfold pixelAt
  grind

@[grind ←] theorem mild_instruct (title hover press : String) : (instruct title hover press).Mild := by
  unfold instruct
  grind

@[grind ←] theorem mild_colorWithin (x y radius : Int) (target : Color) (tolerance : Int) :
    (colorWithin x y radius target tolerance).Mild := by
  unfold colorWithin
  grind

end Capture

namespace Files

@[grind =] theorem blamesTree_error (path : String) (fault : PathFault) :
    (fault.error path).blamesTree = false := by
  cases fault <;> rfl

@[grind ←] theorem innocent_read (f : Files) (path : String) : Innocent (f.read path) := by
  unfold read
  grind

@[grind ←] theorem innocent_target (f : Files) (path : String) : Innocent (f.target path) := by
  have place {α : Type} (x : Except PathFault α) : Innocent (x.mapError fun e => e.error path) :=
    innocent_mapError x (blamesTree_error path)
  unfold target
  refine innocent_bind (place _) fun (start, all) => ?_
  dsimp only
  split
  · rfl
  · refine innocent_bind (place _) fun directory => innocent_bind (place _) fun _ => ?_
    grind

@[grind ←] theorem innocent_write (f : Files) (path s : String) : Innocent (f.write path s) := by
  unfold write
  grind

end Files

namespace Cache

@[grind ←] theorem innocent_document (s : String) : Innocent (document s) := by
  unfold document
  grind

@[grind ←] theorem innocent_insert (j : Json) (key : String) (value : Json) :
    Innocent (insert j key value) := by
  unfold insert
  grind

@[grind ←] theorem mild_readDocument (path : String) : (readDocument path).Mild := by
  unfold readDocument
  grind

@[grind ←] theorem mild_writeDocument (path : String) (j : Json) : (writeDocument path j).Mild := by
  unfold writeDocument
  grind

@[grind ←] theorem mild_load (kind : CacheKind) (path : String) : (load kind path).Mild := by
  unfold load
  grind

@[grind ←] theorem mild_save (kind : CacheKind) (path : String) (j : Json) : (save kind path j).Mild := by
  unfold save
  grind

@[grind ←] theorem mild_store (kind : CacheKind) (key : String) (value : Json) :
    (store kind key value).Mild := by
  unfold store
  grind

@[grind ←] theorem mild_loadRegions : loadRegions.Mild := by
  unfold loadRegions
  grind

end Cache

namespace Keyboard

@[grind ←] theorem innocent_keyNamed? (v : Value) : Innocent (keyNamed? v) := by
  unfold keyNamed?
  grind

@[grind ←] theorem innocent_buttonOf (name : String) : Innocent (buttonOf name) := by
  unfold buttonOf
  grind

@[grind ←] theorem mild_send (key : Key) (down : Bool) : (send key down).Mild := by
  unfold send
  grind

@[grind ←] theorem mild_sendButton (button : String) (down : Bool) : (sendButton button down).Mild := by
  unfold sendButton
  grind

@[grind ←] theorem mild_sendInput (device key action : String) : (sendInput device key action).Mild := by
  unfold sendInput
  grind

@[grind ←] theorem mild_leftClick : leftClick.Mild := by
  unfold leftClick
  grind

@[grind ←] theorem mild_variedDelay (delay : Int) : (variedDelay delay).Mild := by
  unfold variedDelay
  grind

@[grind ←] theorem mild_sendAll (delay : Int) (down : Bool) (keys : List String) :
    (sendAll delay down keys).Mild := by
  induction keys with
  | nil => trivial
  | cons key rest ih =>
    unfold sendAll
    grind

@[grind ←] theorem mild_pressAndRelease (delay : Int) (keys : List String) :
    (pressAndRelease delay keys).Mild := by
  unfold pressAndRelease
  grind

end Keyboard

namespace Pointer

open Routine

@[grind ←] theorem innocent_angle (x : Float) : Innocent (angle x) := by
  unfold angle
  grind

@[grind ←] theorem innocent_span (dx dy : Value) : Innocent (span dx dy) := by
  unfold span
  grind

@[grind ←] theorem innocent_distance (x₁ y₁ x₂ y₂ : Value) : Innocent (distance x₁ y₁ x₂ y₂) := by
  unfold distance
  grind

@[grind ←] theorem innocent_duration (x₁ y₁ x₂ y₂ speed : Value) :
    Innocent (duration x₁ y₁ x₂ y₂ speed) := by
  unfold duration
  grind

@[grind ←] theorem innocent_smallerValue (a b : Value) : Innocent (smallerValue a b) := by
  unfold smallerValue
  grind

@[grind ←] theorem innocent_steps (w : Way) (time : Float) (rate : Value) :
    Innocent (w.steps time rate) := by
  unfold Way.steps
  grind

@[grind ←] theorem innocent_aside (p : Plan) (t : Float) : Innocent (p.aside t) := by
  unfold Plan.aside
  grind

@[grind ←] theorem mild_jump (x y duration : Value) : (jump x y duration).Mild := by
  unfold jump
  grind

@[grind ←] theorem mild_position : position.Mild := by
  unfold position
  grind

@[grind ←] theorem mild_way (x y : Value) : (Way.to x y).Mild := by
  unfold Way.to
  repeat' with_reducible refine Mild.bind ?_ fun _ => ?_
  all_goals grind

@[grind ←] theorem mild_keepTime (start stepTime : Float) (i : Nat) : (keepTime start stepTime i).Mild := by
  unfold keepTime
  grind

@[grind ←] theorem mild_follow (x y : Float) : (follow x y).Mild := by
  unfold follow
  grind

@[grind ←] theorem mild_remaining (x y : Value) : (remaining x y).Mild := by
  unfold remaining
  grind

@[grind ←] theorem mild_run (p : Plan) (left : Nat) : (p.run left).Mild := by
  induction left with
  | zero => trivial
  | succ left ih =>
    unfold Plan.run
    grind

@[grind ←] theorem mild_moveCurved (x y : Value) (c : Curve) : (moveCurved x y c).Mild := by
  unfold moveCurved
  dsimp only
  repeat' first
    | with_reducible refine Mild.bind ?_ fun _ => ?_
    | split
  all_goals grind

@[grind ←] theorem mild_moveTo (x y speed : Value) (handLike : Bool) (scatter : Value) :
    (moveTo x y speed handLike scatter).Mild := by
  unfold moveTo
  dsimp only
  repeat' first
    | with_reducible refine Mild.bind ?_ fun _ => ?_
    | split
  all_goals grind

end Pointer

namespace Vision

open Routine

@[grind ←] theorem innocent_toGray (s : Shape) : Innocent s.toGray := by
  unfold Shape.toGray
  grind

@[grind ←] theorem innocent_resize (s : Shape) (width height : Int) :
    Innocent (s.resize width height) := by
  unfold Shape.resize
  grind

@[grind ←] theorem innocent_enlarge (s : Shape) (factor : Value) : Innocent (s.enlarge factor) := by
  unfold Shape.enlarge
  grind

@[grind ←] theorem innocent_reaches (p : Precision) (limit : Value) (v : Float) :
    Innocent (p.reaches limit v) := by
  unfold Precision.reaches
  grind

@[grind ←] theorem innocent_limits (s : Store) (v : Value) : Innocent (Limits.ofValue s v) := by
  unfold Limits.ofValue
  grind

@[grind ←] theorem innocent_reached (l : Limits) (columns rows : Nat) (valueAt : Nat → Nat → Float) :
    Innocent (l.reached columns rows valueAt) := by
  unfold Limits.reached
  grind

@[grind ←] theorem innocent_above (f : Fit) (limit : Value) : Innocent (f.above limit) := by
  unfold Fit.above
  grind

@[grind ←] theorem innocent_reaching (f : Fit) (s : Store) (threshold : Value) :
    Innocent (f.reaching s threshold) := by
  unfold Fit.reaching
  grind

@[grind ←] theorem innocent_scaledLength (scale : Value) (n : Nat) :
    Innocent (scaledLength scale n) := by
  unfold scaledLength
  grind

@[grind ←] theorem innocent_scaledSize (needle haystack : Shape) (scale : Value) :
    Innocent (scaledSize needle haystack scale) := by
  unfold scaledSize
  grind

@[grind ←] theorem innocent_pictureLength (v : Value) : Innocent (pictureLength v) := by
  unfold pictureLength
  grind

@[grind ←] theorem innocent_pictureArea (before : Nat) (sides : List Int) :
    Innocent (pictureArea before sides) := by
  fun_induction pictureArea before sides <;> grind

@[grind ←] theorem innocent_pictureShape (width height : Value) :
    Innocent (pictureShape width height) := by
  unfold pictureShape
  grind

@[grind ←] theorem innocent_toScreen (x y sx sy : Value) : Innocent (toScreen x y sx sy) := by
  unfold toScreen
  grind

@[grind ←] theorem innocent_firstOf {α : Type} (count : Value) (items : List α) :
    Innocent (firstOf count items) := by
  unfold firstOf
  grind

@[grind ←] theorem mild_wholeScreen : wholeScreen.Mild := by
  unfold wholeScreen
  grind

@[grind ←] theorem mild_screenshot (region : Option Region) (scale : Value) :
    (screenshot region scale).Mild := by
  unfold screenshot
  repeat' first
    | with_reducible refine Mild.bind ?_ fun _ => ?_
    | split
  all_goals grind

@[grind ←] theorem mild_density (picture : Shape) : (density picture).Mild := by
  unfold density
  grind

@[grind ←] theorem mild_examples (directory name : String) : (examples directory name).Mild := by
  unfold examples
  grind

@[grind ←] theorem mild_needle (path : String) (method : Value) : (Needle.read path method).Mild := by
  unfold Needle.read
  grind

@[grind ←] theorem mild_exampleNeedle (path : String) (scale : Value) :
    (exampleNeedle path scale).Mild := by
  unfold exampleNeedle
  repeat' first
    | with_reducible refine Mild.bind ?_ fun _ => ?_
    | split
  all_goals grind

@[grind ←] theorem mild_lay (haystack needle : Shape) : (lay haystack needle).Mild := by
  unfold lay
  grind

@[grind ←] theorem mild_layScaled (haystack needle : Shape) (w h : Int) :
    (layScaled haystack needle w h).Mild := by
  unfold layScaled
  grind

@[grind ←] theorem mild_draw (display : Display) (title : String) (rects : List Rectangle) :
    (draw display title rects).Mild := by
  unfold draw
  refine Mild.bind ?_ fun _ => by grind
  induction rects with
  | nil => trivial
  | cons r rest ih =>
    rw [List.forIn_cons]
    refine Mild.bind ?_ fun step => ?_
    · grind
    · cases step with
      | done _ => trivial
      | yield _ => exact ih

@[grind ←] theorem mild_findOne (needle : Needle) (haystack shape : Shape) (threshold : Value)
    (display : Display) (scales : List Value) :
    (findOne needle haystack shape threshold display scales).Mild := by
  induction scales with
  | nil => trivial
  | cons scale rest ih =>
    unfold findOne
    repeat' first
      | with_reducible refine Mild.bind ?_ fun _ => ?_
      | split
    all_goals grind

@[grind ←] theorem mild_reportTimes : reportTimes.Mild := by
  unfold reportTimes
  grind

end Vision

namespace Ocr

@[grind ←] theorem innocent_prepare (s : Store) (picture : Vision.Shape) (scale : Value) :
    Innocent (prepare s picture scale) := by
  unfold prepare
  grind

@[grind ←] theorem innocent_folded (v : Value) : Innocent (folded v) := by
  unfold folded
  grind

@[grind ←] theorem innocent_contains (text word : Value) : Innocent (contains text word) := by
  unfold contains
  grind

@[grind ←] theorem innocent_selects (s : Store) (filter text : Value) :
    Innocent (selects s filter text) := by
  unfold selects
  grind

@[grind ←] theorem innocent_coordinate (j : Json) : Innocent (coordinate j) := by
  unfold coordinate
  grind

@[grind ←] theorem innocent_box (j : Json) : Innocent (Box.ofJson j) := by
  have row (items : List Json) : Innocent (items.mapM coordinate) :=
    innocent_mapM fun j _ => innocent_coordinate j
  unfold Box.ofJson
  split
  next items =>
    split
    next first rest _ =>
      split
      · rfl
      · dsimp only
        split
        · trivial
        · split
          · rfl
          · exact innocent_bind (innocent_mapM fun items _ => row items) fun _ => trivial
    next => grind
  next j _ => exact innocent_bind (innocent_coordinate _) fun _ => trivial

@[grind ←] theorem innocent_offset (v : Value) : Innocent (offset v) := by
  unfold offset
  grind

@[grind ←] theorem innocent_offsets (size : Nat) (left top : Value) :
    Innocent (offsets size left top) := by
  unfold offsets
  grind

@[grind ←] theorem innocent_checkPair (size : Nat) : Innocent (checkPair size) := by
  unfold checkPair
  grind

@[grind ←] theorem innocent_placed (scale : Float) (region : Option Vision.Region) (box : Box) :
    Innocent (box.placed scale region) := by
  cases box with
  | number => unfold Box.placed; grind
  | flat count => unfold Box.placed; grind
  | deep size =>
    cases region with
    | none => exact innocent_bind (innocent_checkPair size) fun _ => rfl
    | some r =>
      refine innocent_bind (innocent_offsets ..) fun _ => ?_
      exact innocent_bind (innocent_checkPair size) fun _ => rfl
  | corners size points =>
    refine innocent_bind (innocent_optionMapM fun r => innocent_offsets ..) fun _ => ?_
    exact innocent_bind (innocent_checkPair size) fun _ => trivial

@[grind ←] theorem innocent_finding? (q : Query) (store : Store) (scale : Float) (s : Sighting) :
    Innocent (q.finding? store scale s) := by
  unfold Query.finding?
  grind

@[grind ←] theorem innocent_regionOf (left top right bottom : Value) :
    Innocent (regionOf left top right bottom) := by
  unfold regionOf
  grind

@[grind ←] theorem mild_read (picture : Vision.Shape) : (read picture).Mild := by
  unfold read
  grind

end Ocr

namespace Recording

open Routine

@[grind ←] theorem innocent_readPlace (s : Store) (data : Value) (field : String) :
    Innocent (readPlace s data field) := by
  unfold readPlace Store.entry
  grind

@[grind ←] theorem innocent_readEvent (s : Store) (data : Value) : Innocent (readEvent s data) := by
  unfold readEvent Store.entry
  grind

@[grind ←] theorem mild_keep (name : String) (events : List RecordedEvent) :
    (keep name events).Mild := by
  unfold keep
  grind

@[grind ←] theorem mild_heading (name : String) : (heading name).Mild := by
  unfold heading
  grind

@[grind ←] theorem mild_countdown (count : Nat) : (countdown count).Mild := by
  unfold countdown
  grind

@[grind ←] theorem innocent_clickedButton (key : Value) : Innocent (clickedButton key) := by
  unfold clickedButton
  grind

@[grind ←] theorem innocent_stopKey (s : Store) (name : Value) : Innocent (stopKey s name) := by
  unfold stopKey
  grind

@[grind ←] theorem innocent_squashFrom {far : RecordedEvent → RecordedEvent → Except Error Bool}
    (innocent : ∀ a b, Innocent (far a b)) (moves : Option (RecordedEvent × RecordedEvent))
    (events : List RecordedEvent) : Innocent (squashFrom far moves events) := by
  fun_induction squashFrom far moves events <;> grind

@[grind ←] theorem innocent_place (place : List Value) (i : Nat) : Innocent (coordinate place i) := by
  unfold coordinate
  grind

@[grind ←] theorem innocent_farther (threshold : Value) (first e : RecordedEvent) :
    Innocent (farther threshold first e) := by
  unfold farther
  grind

@[grind ←] theorem innocent_gap (e next : RecordedEvent) : Innocent (gap e next) := by
  unfold gap
  grind

@[grind ←] theorem innocent_attachDurations (events : List RecordedEvent) :
    Innocent (attachDurations events) := by
  fun_induction attachDurations events <;> grind

@[grind ←] theorem innocent_listenedKey (name : Value) (otherwise : Key) :
    Innocent (listenedKey name otherwise) := by
  unfold listenedKey
  grind

@[grind ←] theorem innocent_listening (startName stopName : Value) :
    Innocent (listening startName stopName) := by
  unfold listening
  grind

@[grind ←] theorem mild_approach (jitter : Value) (events : List RecordedEvent) :
    (approach jitter events).Mild := by
  unfold approach
  repeat' first
    | with_reducible refine Mild.bind ?_ fun _ => ?_
    | split
  all_goals grind

@[grind ←] theorem mild_performKey (e : RecordedEvent) : (perform.performKey e).Mild := by
  unfold perform.performKey
  grind

@[grind ←] theorem mild_perform (e : RecordedEvent) : (perform e).Mild := by
  unfold perform
  grind

@[grind ←] theorem mild_watchFor (key : Key) : (watchFor key).Mild := Action.mild_modifyGet _

@[grind ←] theorem mild_endWatch (watch : Nat) : (endWatch watch).Mild := Action.mild_modify _

@[grind ←] theorem mild_isStopped (watch : Nat) : (isStopped watch).Mild := by
  unfold isStopped
  grind

@[grind ←] theorem mild_awaitTurn (zero : Value) (start : Float) (e : RecordedEvent) :
    (awaitTurn zero start e).Mild := by
  unfold awaitTurn
  repeat' with_reducible refine Mild.bind ?_ fun _ => ?_
  all_goals grind

@[grind ←] theorem mild_closing (watch : Nat) : (closing watch).Mild := by
  unfold closing
  grind

@[grind ←] theorem mild_play (watch : Nat) (zero : Value) (start : Float) (events : List RecordedEvent) :
    (play watch zero start events).Mild := by
  induction events with
  | nil => trivial
  | cons e rest ih =>
    unfold play
    repeat' first
      | with_reducible refine Mild.bind ?_ fun _ => ?_
      | split
    all_goals grind

@[grind ←] theorem mild_recorder : recorder.Mild := by
  unfold recorder
  grind

@[grind ←] theorem mild_awaitStart (fuel : Nat) : (awaitStart fuel).Mild := by
  induction fuel with
  | zero => rfl
  | succ fuel ih =>
    unfold awaitStart
    grind

@[grind ←] theorem mild_awaitStop (fuel : Nat) : (awaitStop fuel).Mild := by
  induction fuel with
  | zero => rfl
  | succ fuel ih =>
    unfold awaitStop
    grind

@[grind ←] theorem mild_gather (startName stopName : Value) : (gather startName stopName).Mild := by
  unfold gather
  dsimp only
  repeat' with_reducible refine Mild.bind ?_ fun _ => ?_
  all_goals grind

@[grind ←] theorem mild_record (threshold startName stopName : Value) :
    (record threshold startName stopName).Mild := by
  unfold record squash
  repeat' with_reducible refine Mild.bind ?_ fun _ => ?_
  all_goals grind

end Recording

end DeskScript
