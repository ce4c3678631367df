import Gatehouse.Registry.Reply
/-!
# Registry calls — one at a time and in a row

The five calls as data, so that what a registry answers to any sequence of them can be spoken about: `answers` is all
that a registry ever shows of its contents.
-/
namespace Gatehouse
namespace Registry

/-- A call. -/
inductive Call where
  | get (identity : String)
  | all
  | insert (identity publicKey : String) (level : Nat)
  | update (identity publicKey : String) (level : Nat)
  | delete (identity : String)
  deriving DecidableEq, Repr

/-- What a call is answered with. -/
inductive Answer where
  | record (reply : Reply (Option KeyRecord))
  | records (reply : Reply (SortedMap KeyRecord))
  | done (reply : Reply Unit)

/-- Whether a change was made. -/
def Answer.isDone : Answer → Bool
  | .done (.answered (.ok ())) => true
  | _ => false

/-- A level that a call brings is one of 32 bits. -/
def Call.Bounded : Call → Prop
  | .insert _ _ level => level < 2 ^ 32
  | .update _ _ level => level < 2 ^ 32
  | _ => True

/-- A call gives an identity a key and a level. -/
def Call.Gives (c : Call) (identity publicKey : String) (level : Nat) : Prop :=
  c = .insert identity publicKey level ∨ c = .update identity publicKey level

variable {σ : Type} [Registry σ]

/-- The answer to a call, and the state after it. -/
def perform (s : σ) : Call → Answer × σ
  | .get identity => (.record (get s identity).1, (get s identity).2)
  | .all => (.records (all s).1, (all s).2)
  | .insert identity publicKey level => (.done (insert s identity publicKey level).1, (insert s identity publicKey level).2)
  | .update identity publicKey level => (.done (update s identity publicKey level).1, (update s identity publicKey level).2)
  | .delete identity => (.done (delete s identity).1, (delete s identity).2)

/-- The answers to calls made one after another. -/
def answers (s : σ) : List Call → List Answer
  | [] => []
  | c :: rest => (perform s c).1 :: answers (perform s c).2 rest

/-- The state after calls made one after another. -/
def after (s : σ) : List Call → σ
  | [] => s
  | c :: rest => after (perform s c).2 rest

/-- **What every call keeps holds after any calls.** -/
theorem after_keeps {P : σ → Prop} (hstep : ∀ s c, P s → P (perform s c).2) :
    ∀ (calls : List Call) {s : σ}, P s → P (after s calls)
  | [], _, h => h
  | c :: rest, s, h => after_keeps hstep rest (hstep s c h)

theorem after_append (s : σ) : ∀ before rest : List Call, after s (before ++ rest) = after (after s before) rest
  | [], _ => rfl
  | c :: before, rest => after_append (perform s c).2 before rest

end Registry
end Gatehouse
