import Mathlib.Data.List.Forall2
import Gatehouse.Audit
import Gatehouse.Proofs.Json.Flat
/-!
# The audit log — one object a line, and nothing else

`log_tells`: what a run of events adds to a log is cut at its line feeds into one line for each event, in their order;
each line is one object, which has the time and the members that its event says (`Event.Says`) and no other; and no
other run of events adds the same bytes.  Whatever text an identity, a path or an outcome is, it stays inside its
quotes: a line holds no control byte, and its members read back as they were written.
-/
namespace Gatehouse
namespace Audit

open Json (FlatMembers IsExact)

/-! ## What an event says -/

namespace Event

/-- The members of an event's record beside its time, each under its name. -/
inductive Says : Event → String → Json → Prop
  | loginEvent : Says (login identity outcome sessionId) "event" (.text "login")
  | loginIdentity : Says (login (some identity) outcome sessionId) "identity" (.text identity)
  | loginOutcome : Says (login identity outcome sessionId) "outcome" (.text outcome)
  | loginSession : Says (login identity outcome (some sessionId)) "session_id" (.text sessionId)
  | httpEvent : Says (http identity sessionId method path status duration) "event" (.text "http_request")
  | httpIdentity : Says (http identity sessionId method path status duration) "identity" (.text identity)
  | httpMethod : Says (http identity sessionId method path status duration) "method" (.text method)
  | httpPath : Says (http identity sessionId method path status duration) "path" (.text path)
  | httpStatus : Says (http identity sessionId method path status duration) "status" (.int status)
  | httpDuration : Says (http identity sessionId method path status duration) "duration_ms" (.int duration)
  | httpSession : Says (http identity (some sessionId) method path status duration) "session_id" (.text sessionId)
  | changeEvent : Says (keyChange actor action target outcome) "event" (.text action)
  | changeIdentity : Says (keyChange actor action target outcome) "identity" (.text actor)
  | changeTarget : Says (keyChange actor action target outcome) "target" (.text target)
  | changeOutcome : Says (keyChange actor action target outcome) "outcome" (.text outcome)

/-- The members of a line, in their order. -/
def record (e : Event) (timestamp : String) : List (String × Json) :=
  ("timestamp", .text timestamp) :: ("event", .text e.name) :: e.members

theorem mem_member?_iff {name member : String} {s : Option String} {v : Json} :
    (name, v) ∈ member? member s ↔ name = member ∧ ∃ text, s = some text ∧ v = .text text := by
  cases s with
  | none => simp [member?]
  | some text => simp [member?]

/-- The members of a line are the time and what its event says. -/
theorem mem_record_iff {e : Event} {timestamp name : String} {v : Json} :
    (name, v) ∈ e.record timestamp ↔ name = "timestamp" ∧ v = .text timestamp ∨ e.Says name v := by
  rw [record, List.mem_cons, List.mem_cons, Prod.mk.injEq, Prod.mk.injEq]
  refine or_congr_right ⟨fun h => ?_, fun h => ?_⟩
  · cases e with
    | login identity outcome sessionId =>
      simp only [members, List.mem_append, List.mem_cons, List.not_mem_nil, or_false, Prod.mk.injEq, mem_member?_iff] at h
      rcases h with ⟨rfl, rfl⟩ | (⟨rfl, text, rfl, rfl⟩ | ⟨rfl, rfl⟩) | ⟨rfl, text, rfl, rfl⟩ <;> constructor
    | http identity sessionId method path status duration =>
      simp only [members, List.mem_append, List.mem_cons, List.not_mem_nil, or_false, Prod.mk.injEq, mem_member?_iff] at h
      rcases h with ⟨rfl, rfl⟩ | (⟨rfl, rfl⟩ | ⟨rfl, rfl⟩ | ⟨rfl, rfl⟩ | ⟨rfl, rfl⟩ | ⟨rfl, rfl⟩) | ⟨rfl, text, rfl, rfl⟩ <;>
        constructor
    | keyChange actor action target outcome =>
      simp only [members, List.mem_cons, List.not_mem_nil, or_false, Prod.mk.injEq] at h
      rcases h with ⟨rfl, rfl⟩ | ⟨rfl, rfl⟩ | ⟨rfl, rfl⟩ | ⟨rfl, rfl⟩ <;> constructor
  · cases h <;> simp [members, member?, name]

theorem nodup_record (e : Event) (timestamp : String) : ((e.record timestamp).map Prod.fst).Nodup := by
  cases e with
  | login identity outcome sessionId =>
    cases identity <;> cases sessionId <;> simp [record, members, member?]
  | http identity sessionId method path status duration => cases sessionId <;> simp [record, members, member?]
  | keyChange actor action target outcome => simp [record, members]

theorem flat_record (e : Event) (timestamp : String) : FlatMembers (e.record timestamp) := by
  intro m hm
  rcases mem_record_iff.1 hm with ⟨-, hv⟩ | hsays
  · rw [hv]
    exact .text timestamp
  · generalize m.1 = name, m.2 = v at hsays
    cases hsays <;> constructor

/-- **A record tells its event and its time.**  The kinds are told apart by the members that they have: a request has a
method, a change a target, a login neither. -/
theorem eq_of_record {e e' : Event} {t t' : String} (h : e.record t = e'.record t') : e = e' ∧ t = t' := by
  simp only [record, List.cons.injEq, Prod.mk.injEq, true_and, Json.text.injEq] at h
  obtain ⟨ht, hname, hmembers⟩ := h
  refine ⟨?_, ht⟩
  cases e with
  | login identity outcome sessionId =>
    cases e' with
    | login identity' outcome' sessionId' =>
      cases identity <;> cases identity' <;> cases sessionId <;> cases sessionId' <;> simp_all [members, member?]
    | http => simp [name] at hname
    | keyChange actor action target outcome' =>
      cases identity <;> cases sessionId <;> simp [members, member?] at hmembers
  | http identity sessionId method path status duration =>
    cases e' with
    | login => simp [name] at hname
    | http identity' sessionId' method' path' status' duration' =>
      cases sessionId <;> cases sessionId' <;> simp_all [members, member?, Json.int_natCast_inj]
    | keyChange => simp [members] at hmembers
  | keyChange actor action target outcome =>
    cases e' with
    | login identity outcome' sessionId =>
      cases identity <;> cases sessionId <;> simp [members, member?] at hmembers
    | http => simp [members] at hmembers
    | keyChange actor' action' target' outcome' =>
      simp only [members, List.cons.injEq, Prod.mk.injEq, Json.text.injEq, true_and, and_true] at hmembers
      obtain ⟨rfl, rfl, rfl⟩ := hmembers
      exact congrArg (keyChange actor · target outcome) hname

end Event

/-! ## Lines -/

/-- The bytes of a line, without its end. -/
def written (entry : Event × String) : List UInt8 := Text.utf8 (entry.1.line entry.2)

/-- **A line tells its event and its time.** -/
theorem written_injective : Function.Injective written := by
  rintro ⟨e, t⟩ ⟨e', t'⟩ h
  have hmembers := Json.members_eq_of_compact (e.flat_record t) (e'.flat_record t') h
  obtain ⟨rfl, rfl⟩ := Event.eq_of_record hmembers
  rfl

theorem feed_not_mem_written (entry : Event × String) : (0x0A : UInt8) ∉ written entry := fun hmem =>
  absurd (Json.printable_of_mem_compact (entry.1.flat_record entry.2) _ hmem) (by decide)

/-- A line feed and a quote stay inside the member that they are given for. -/
example : (Event.login (some "eve\n\"") "failed" none).line "t" =
    "\x7b\"timestamp\":\"t\",\"event\":\"login\",\"identity\":\"eve\\n\\\"\",\"outcome\":\"failed\"\x7d" := by rfl

/-- A line is one object, which tells what was logged: it has the time and the members that the event says, each once
and no other.  A reader of whole values takes it as well, provided that it keeps the integers in it. -/
def Tells (line : List UInt8) (entry : Event × String) : Prop :=
  ∃ members, Json.record? line = some members ∧ (members.map Prod.fst).Nodup ∧
    (∀ name v, (name, v) ∈ members ↔ name = "timestamp" ∧ v = .text entry.2 ∨ entry.1.Says name v) ∧
    ((∀ name n, (name, Json.int n) ∈ members → IsExact n) → Json.parse? line = some (.ofMembers members))

theorem tells_written (entry : Event × String) : Tells (written entry) entry :=
  have hflat := entry.1.flat_record entry.2
  ⟨entry.1.record entry.2, Json.record?_compact hflat, entry.1.nodup_record entry.2, fun _ _ => Event.mem_record_iff,
    Json.parse?_flat hflat⟩

/-! ## The log -/

/-- What a run of events adds to a log. -/
def added (entries : List (Event × String)) : List UInt8 := (entries.map written).flatMap fun line => line ++ [0x0A]

theorem added_cons (entry : Event × String) (entries : List (Event × String)) :
    added (entry :: entries) = written entry ++ [0x0A] ++ added entries := rfl

theorem foldl_append (log : List UInt8) (entries : List (Event × String)) :
    entries.foldl append log = log ++ added entries := by
  induction entries generalizing log with
  | nil => exact (List.append_nil log).symm
  | cons entry entries ih =>
    rw [List.foldl_cons, ih, append, added_cons, List.append_assoc, List.append_assoc, List.append_assoc]
    rfl

/-- Lines that are ended by line feeds, and hold none, are cut back out of the text. -/
theorem splitOn_feeds : ∀ {lines : List (List UInt8)}, (∀ line ∈ lines, 0x0A ∉ line) →
    (lines.flatMap fun line => line ++ [0x0A]).splitOn 0x0A = lines ++ [[]]
  | [], _ => List.splitOn_nil 0x0A
  | line :: lines, h => by
    have hline : ([0x0A].intercalate [line]).splitOn 0x0A = [line] :=
      List.splitOn_intercalate 0x0A (fun l hl => List.mem_singleton.1 hl ▸ h line List.mem_cons_self)
        (List.cons_ne_nil _ _)
    rw [List.intercalate_singleton] at hline
    rw [List.flatMap_cons, List.append_assoc, List.singleton_append, List.splitOn_append_cons_self, hline,
      splitOn_feeds fun l hl => h l (List.mem_cons_of_mem line hl)]
    rfl

theorem splitOn_added (entries : List (Event × String)) :
    (added entries).splitOn 0x0A = entries.map written ++ [[]] := by
  refine splitOn_feeds fun line hline => ?_
  obtain ⟨entry, -, rfl⟩ := List.mem_map.1 hline
  exact feed_not_mem_written entry

theorem added_injective : Function.Injective added := by
  intro entries others h
  have hlines := congrArg (List.splitOn 0x0A) h
  rw [splitOn_added, splitOn_added] at hlines
  exact List.map_injective_iff.2 written_injective (List.append_cancel_right hlines)

/-- **A log is one object a line, which tells what was logged and no more.** -/
theorem log_tells (log : List UInt8) (entries : List (Event × String)) :
    ∃ new lines, entries.foldl append log = log ++ new ∧ new.splitOn 0x0A = lines ++ [[]] ∧
      List.Forall₂ Tells lines entries ∧
      ∀ others : List (Event × String), others.foldl append log = log ++ new → others = entries := by
  refine ⟨added entries, entries.map written, foldl_append log entries, splitOn_added entries, ?_, fun others h => ?_⟩
  · rw [List.forall₂_map_left_iff]
    exact List.forall₂_same.2 fun entry _ => tells_written entry
  · rw [foldl_append] at h
    exact added_injective (List.append_cancel_left h)

end Audit
end Gatehouse
