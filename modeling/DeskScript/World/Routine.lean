import DeskScript.Error
import DeskScript.World.Console

/-!
# Routines

What devices and built-ins do, one thing after the other: a routine works on a state, prints texts
and asks for lines. It names the next thing and how to go on with what comes of it, so nothing that
it does can depend on the console but through the replies that it gets.
-/

namespace DeskScript

inductive Routine (σ α : Type) : Type 1 where
  | done (a : α)
  | fail (e : Error)
  | step {β : Type} (f : σ → β × σ) (next : β → Routine σ α)
  | say (speaker : Speaker) (s : String) (next : Routine σ α)
  | ask (speaker : Speaker) (prompt : String) (next : Reply → Routine σ α)

namespace Routine

variable {σ α β : Type}

def bind : Routine σ α → (α → Routine σ β) → Routine σ β
  | done a, f => f a
  | fail e, _ => fail e
  | step g next, f => step g fun b => (next b).bind f
  | say speaker s next, f => say speaker s (next.bind f)
  | ask speaker prompt next, f => ask speaker prompt fun r => (next r).bind f

/-- Goes on after an error. What was done up to then stays done. -/
def rescue : Routine σ α → (Error → Routine σ α) → Routine σ α
  | done a, _ => done a
  | fail e, handle => handle e
  | step g next, handle => step g fun b => (next b).rescue handle
  | say speaker s next, handle => say speaker s (next.rescue handle)
  | ask speaker prompt next, handle => ask speaker prompt fun r => (next r).rescue handle

instance : Monad (Routine σ) where
  pure := done
  bind := bind

instance : MonadExceptOf Error (Routine σ) where
  throw := fail
  tryCatch := rescue

instance : MonadStateOf σ (Routine σ) where
  get := step (fun s => (s, s)) done
  set s := step (fun _ => ((), s)) done
  modifyGet f := step f done

instance : MonadLift (Except Error) (Routine σ) where
  monadLift
    | .ok a => done a
    | .error e => fail e

/-- Does what a routine says. Without a reply left the input has ended. -/
def run : Routine σ α → EStateM Error (σ × Console) α
  | done a, s => .ok a s
  | fail e, s => .error e s
  | step f next, (s, console) =>
    let (b, s) := f s
    (next b).run (s, console)
  | say speaker t next, (s, console) => next.run (s, console.say speaker t)
  | ask speaker prompt next, (s, console) =>
    match console.say speaker prompt with
    | ⟨[], printed⟩ => .error .endOfInput (s, ⟨[], printed⟩)
    | ⟨reply :: replies, printed⟩ => (next reply).run (s, ⟨replies, printed⟩)

end Routine

end DeskScript
