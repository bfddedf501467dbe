/-
  BracketBalance.Proofs.Chunks — a text fed to a session in chunks.

  A call takes one chunk (`receive`): it reads up to the character that halts the
  scan, and a session that has halted takes nothing more. A caller with several
  chunks makes a call for each (`receiveAll`), and either goes on after a violation
  or stops there. Each call is answered (`Reply`): the violation, if there is one,
  and the records that were written meanwhile.

  Proved: however the text is cut, and whether or not the caller goes on, the session
  it leaves is the one that takes the whole text in one call, and the answers put
  together say what that call says. Where the text halts the scan, the calls before
  the chunk that does so are answered with no violation, that call and those after it
  with the same one, and the calls after it change nothing (`receive_chunks`).
-/

import BracketBalance.Proofs.Session

namespace BracketBalance

namespace Session

def consume (g : Grammar) : Session → List Char → Option Violation × Session
  | s, [] => (none, s)
  | s, c :: t =>
    let s := s.read g c
    match s.scanner.fault with
    | none => consume g s t
    | some v => (some v, s)

def receive (g : Grammar) (s : Session) (chunk : List Char) : Option Violation × Session :=
  match s.scanner.fault with
  | none => consume g s chunk
  | some v => (some v, s)

structure Reply where
  violation : Option Violation
  records : List Log.Record
  deriving DecidableEq, Repr

/-- The calls of a caller who has these chunks, and who goes `onward` after a violation or not. -/
def receiveAll (g : Grammar) (onward : Bool) : Session → List (List Char) → List Reply × Session
  | s, [] => ([], s)
  | s, chunk :: chunks =>
    let (v, s') := s.receive g chunk
    let reply : Reply := ⟨v, s'.records.drop s.records.length⟩
    if v.isSome && !onward then ([reply], s')
    else
      let (replies, s'') := receiveAll g onward s' chunks
      (reply :: replies, s'')

variable {g : Grammar} {s : Session} {onward : Bool}

/-! ## One call -/

theorem consume_eq (hs : s.scanner.fault = none) (t : List Char) :
    s.consume g t = ((s.feed g t).scanner.fault, s.feed g t) := by
  induction t generalizing s with
  | nil => rw [feed_nil, hs]; rfl
  | cons c t ih =>
    rw [feed_cons]
    unfold consume
    dsimp only
    split
    · rename_i hc
      exact ih hc
    · rename_i v hc
      rw [feed_of_fault hc, hc]

/-- A call reads its chunk: what is left unread when the scan halts would change nothing. -/
theorem receive_eq (g : Grammar) (s : Session) (t : List Char) :
    s.receive g t = ((s.feed g t).scanner.fault, s.feed g t) := by
  unfold receive
  split
  · rename_i hs
    exact consume_eq hs t
  · rename_i v hs
    rw [feed_of_fault hs, hs]

def reply (s s' : Session) : Reply := ⟨s'.scanner.fault, s'.records.drop s.records.length⟩

theorem records_reply (g : Grammar) (s : Session) (t : List Char) :
    s.records ++ (s.reply (s.feed g t)).records = (s.feed g t).records := by
  have hp : s.records <+: (s.feed g t).records := List.reverse_prefix.mpr (log_suffix_feed g s t)
  obtain ⟨rs, hrs⟩ := hp
  show s.records ++ (s.feed g t).records.drop s.records.length = _
  rw [← hrs, List.drop_left]

/-! ## Several calls -/

theorem receiveAll_nil (g : Grammar) (onward : Bool) (s : Session) : s.receiveAll g onward [] = ([], s) := rfl

theorem receiveAll_going {t : List Char} (h : (s.feed g t).scanner.fault = none) (ts : List (List Char)) :
    s.receiveAll g onward (t :: ts) =
      (s.reply (s.feed g t) :: ((s.feed g t).receiveAll g onward ts).1, ((s.feed g t).receiveAll g onward ts).2) := by
  conv => lhs; unfold receiveAll
  rw [receive_eq, reply, h]
  rfl

/-- Once the scan has halted, a call tells its violation and writes nothing. -/
theorem receiveAll_halted {v : Violation} (h : s.scanner.fault = some v) (ts : List (List Char)) :
    s.receiveAll g true ts = (List.replicate ts.length ⟨some v, []⟩, s) := by
  induction ts with
  | nil => rfl
  | cons t ts ih =>
    have ht : s.feed g t = s := feed_of_fault h t
    unfold receiveAll
    rw [receive_eq, ht, h]
    show (_ :: (s.receiveAll g true ts).1, (s.receiveAll g true ts).2) = _
    rw [ih, List.drop_length]
    rfl

/-- The call that halts the scan is the last one, or those after it repeat what it tells. -/
theorem receiveAll_halting {t : List Char} {v : Violation} (h : (s.feed g t).scanner.fault = some v)
    (ts : List (List Char)) :
    s.receiveAll g onward (t :: ts) =
      (s.reply (s.feed g t) :: if onward then List.replicate ts.length ⟨some v, []⟩ else [], s.feed g t) := by
  unfold receiveAll
  rw [receive_eq, reply, h]
  cases onward with
  | false => rfl
  | true =>
    show (_ :: ((s.feed g t).receiveAll g true ts).1, ((s.feed g t).receiveAll g true ts).2) = _
    rw [receiveAll_halted h]
    rfl

/-- The session that is left does not depend on where the text was cut. -/
theorem receiveAll_session (g : Grammar) (onward : Bool) (s : Session) (ts : List (List Char)) :
    (s.receiveAll g onward ts).2 = s.feed g ts.flatten := by
  induction ts generalizing s with
  | nil => rfl
  | cons t ts ih =>
    rw [List.flatten_cons, feed_append]
    cases ht : (s.feed g t).scanner.fault with
    | none =>
      rw [receiveAll_going ht]
      exact ih (s.feed g t)
    | some v => rw [receiveAll_halting ht, feed_of_fault ht]

theorem receiveAll_records (g : Grammar) (onward : Bool) (s : Session) (ts : List (List Char)) :
    s.records ++ (s.receiveAll g onward ts).1.flatMap Reply.records = (s.feed g ts.flatten).records := by
  induction ts generalizing s with
  | nil => simp [receiveAll_nil]
  | cons t ts ih =>
    rw [List.flatten_cons, feed_append]
    cases ht : (s.feed g t).scanner.fault with
    | none =>
      rw [receiveAll_going ht, List.flatMap_cons, ← List.append_assoc, records_reply]
      exact ih (s.feed g t)
    | some v =>
      rw [receiveAll_halting ht, feed_of_fault ht, List.flatMap_cons, ← List.append_assoc, records_reply]
      cases onward <;> simp

theorem receiveAll_last (g : Grammar) (onward : Bool) (s : Session) (t : List Char) (ts : List (List Char)) :
    (s.receiveAll g onward (t :: ts)).1.getLast?.map Reply.violation
      = some (s.feed g (t :: ts).flatten).scanner.fault := by
  induction ts generalizing s t with
  | nil =>
    rw [List.flatten_singleton]
    cases ht : (s.feed g t).scanner.fault with
    | none =>
      rw [receiveAll_going ht]
      exact congrArg some ht
    | some v => simp [receiveAll_halting ht, reply, ht]
  | cons u ts ih =>
    rw [List.flatten_cons, feed_append]
    cases ht : (s.feed g t).scanner.fault with
    | none =>
      have hu := ih (s.feed g t) u
      obtain ⟨r, hr, hv⟩ := Option.map_eq_some_iff.mp hu
      rw [receiveAll_going ht, List.getLast?_cons, hr, ← hv]
      rfl
    | some v =>
      rw [receiveAll_halting ht, feed_of_fault ht, ht]
      cases onward <;> simp [reply, ht, List.getLast?_cons, List.getLast?_replicate]

/-- Calls that do not halt the scan, before others. -/
theorem receiveAll_append {ts : List (List Char)} (h : (s.feed g ts.flatten).scanner.fault = none)
    (us : List (List Char)) :
    ∃ replies, (s.receiveAll g onward (ts ++ us)).1 = replies ++ ((s.feed g ts.flatten).receiveAll g onward us).1
      ∧ replies.map Reply.violation = List.replicate ts.length none := by
  induction ts generalizing s with
  | nil => exact ⟨[], rfl, rfl⟩
  | cons t ts ih =>
    rw [List.flatten_cons, feed_append] at h
    have ht : (s.feed g t).scanner.fault = none := by
      rw [scanner_feed] at h
      exact Scanner.fault_of_feed h
    obtain ⟨replies, he, hn⟩ := ih h
    refine ⟨s.reply (s.feed g t) :: replies, ?_, ?_⟩
    · rw [List.cons_append, receiveAll_going ht, he, List.flatten_cons, feed_append]
      rfl
    · rw [List.map_cons, hn, List.length_cons, List.replicate_succ]
      exact congrArg (· :: _) ht

theorem exists_halt {ts : List (List Char)} {v : Violation} (hf : s.scanner.fault = none)
    (h : (s.feed g ts.flatten).scanner.fault = some v) :
    ∃ before p c q after, ts = before ++ (p ++ c :: q) :: after
      ∧ (s.feed g (before.flatten ++ p)).scanner.fault = none
      ∧ (s.feed g (before.flatten ++ p ++ [c])).scanner.fault = some v := by
  induction ts generalizing s with
  | nil => rw [List.flatten_nil, feed_nil, hf] at h; cases h
  | cons t ts ih =>
    cases ht : (s.feed g t).scanner.fault with
    | none =>
      rw [List.flatten_cons, feed_append] at h
      obtain ⟨before, p, c, q, after, rfl, hp, hc⟩ := ih ht h
      refine ⟨t :: before, p, c, q, after, rfl, ?_, ?_⟩
      · rw [List.flatten_cons, List.append_assoc, feed_append]
        exact hp
      · rw [List.flatten_cons, List.append_assoc, List.append_assoc, feed_append, ← List.append_assoc]
        exact hc
    | some w =>
      have hw : s.feed g (t :: ts).flatten = s.feed g t := by
        rw [List.flatten_cons, feed_append, feed_of_fault ht]
      rw [hw, ht] at h
      cases h
      rw [scanner_feed] at ht
      obtain ⟨p, c, q, rfl, hp, hc, -⟩ := Scanner.exists_halt hf ht
      refine ⟨[], p, c, q, ts, rfl, ?_, ?_⟩
      · rw [scanner_feed]
        exact hp
      · rw [scanner_feed, Scanner.feed_append]
        exact hc

/-- The answers up to the chunk that halts the scan, and after it. -/
theorem receiveAll_of_halt {ts : List (List Char)} {v : Violation} (hf : s.scanner.fault = none)
    (h : (s.feed g ts.flatten).scanner.fault = some v) :
    ∃ before p c q after, ts = before ++ (p ++ c :: q) :: after
      ∧ (s.feed g (before.flatten ++ p)).scanner.fault = none
      ∧ s.feed g (before.flatten ++ p ++ [c]) = s.feed g ts.flatten
      ∧ ∃ replies r, replies.map Reply.violation = List.replicate before.length none ∧ r.violation = some v
        ∧ (s.receiveAll g onward ts).1
            = replies ++ r :: if onward then List.replicate after.length ⟨some v, []⟩ else [] := by
  obtain ⟨before, p, c, q, after, rfl, hp, hc⟩ := exists_halt hf h
  have hb : (s.feed g before.flatten).scanner.fault = none := by
    rw [scanner_feed] at hp ⊢
    exact Scanner.fault_before (List.prefix_append _ _) hp
  -- the chunk that holds `c` halts the scan at `c`
  have hchunk : (s.feed g before.flatten).feed g (p ++ c :: q) = s.feed g (before.flatten ++ p ++ [c]) := by
    rw [← feed_append, show before.flatten ++ (p ++ c :: q) = before.flatten ++ p ++ [c] ++ q by simp]
    rw [feed_append, feed_of_fault hc]
  have hr : ((s.feed g before.flatten).feed g (p ++ c :: q)).scanner.fault = some v := by rw [hchunk, hc]
  refine ⟨before, p, c, q, after, rfl, hp, ?_, ?_⟩
  · rw [← hchunk, List.flatten_append, List.flatten_cons, feed_append g s before.flatten]
    rw [feed_append g _ (p ++ c :: q)]
    exact (feed_of_fault hr after.flatten).symm
  · obtain ⟨replies, he, hn⟩ := receiveAll_append hb ((p ++ c :: q) :: after)
    refine ⟨replies, (s.feed g before.flatten).reply _, hn, hr, ?_⟩
    rw [he, receiveAll_halting hr]

/-! ## However the text is cut -/

/-- The violation `v` of a text in chunks, told by the call that takes the character `c`. -/
structure HaltsIn (g : Grammar) (s : Session) (onward : Bool) (chunks : List (List Char)) (v : Violation) : Prop where
  logged : (s.receive g chunks.flatten).2.halts = [v]
  still : ∀ u, (s.receive g chunks.flatten).2.receive g u = (some v, (s.receive g chunks.flatten).2)
  within : ∃ before p c q after, chunks = before ++ (p ++ c :: q) :: after
    ∧ (s.receive g (before.flatten ++ p)).1 = none
    ∧ s.receive g (before.flatten ++ p ++ [c]) = (some v, (s.receive g chunks.flatten).2)
    ∧ ∃ replies r, replies.map Reply.violation = List.replicate before.length none ∧ r.violation = some v
      ∧ (s.receiveAll g onward chunks).1 =
          replies ++ r :: if onward then List.replicate after.length ⟨some v, []⟩ else []

/-- What a session comes to that takes a text in chunks, against the one call that takes it whole. Equal sessions have
    the same mode, position, open brackets and number of reports, and they answer what comes after alike. -/
structure AsOneCall (g : Grammar) (s : Session) (onward : Bool) (chunks : List (List Char)) : Prop where
  session : (s.receiveAll g onward chunks).2 = (s.receive g chunks.flatten).2
  answer : (s.receiveAll g onward chunks).1.getLast?.map Reply.violation = some (s.receive g chunks.flatten).1
  records : (s.receiveAll g onward chunks).1.flatMap Reply.records = (s.receive g chunks.flatten).2.records
  going : (s.receive g chunks.flatten).1 = none →
    (s.receiveAll g onward chunks).1.map Reply.violation = List.replicate chunks.length none
      ∧ (s.receive g chunks.flatten).2.halts = []
  halting : ∀ v, (s.receive g chunks.flatten).1 = some v → HaltsIn g s onward chunks v

theorem haltsIn (g : Grammar) (reporter : Option Reporter) (onward : Bool) (ts : List (List Char)) {v : Violation}
    (h : ((start reporter).receive g ts.flatten).1 = some v) : HaltsIn g (start reporter) onward ts v := by
  have hv : ((start reporter).feed g ts.flatten).scanner.fault = some v := by rwa [receive_eq] at h
  obtain ⟨before, p, c, q, after, hts, hp, hc, hall⟩ := receiveAll_of_halt rfl hv
  refine ⟨?_, fun u => ?_, before, p, c, q, after, hts, ?_, ?_, hall⟩
  · rw [receive_eq]
    exact (halts_start g reporter _).trans (by rw [hv]; rfl)
  · simp only [receive_eq]
    rw [feed_of_fault hv, hv]
  · rw [receive_eq]
    exact hp
  · rw [receive_eq, receive_eq, hc, hv]

theorem receive_chunks (g : Grammar) (reporter : Option Reporter) (onward : Bool) (t : List Char)
    (ts : List (List Char)) : AsOneCall g (start reporter) onward (t :: ts) where
  session := by
    rw [receive_eq]
    exact receiveAll_session g onward (start reporter) (t :: ts)
  answer := by
    rw [receive_eq]
    exact receiveAll_last g onward (start reporter) t ts
  records := by
    rw [receive_eq]
    exact receiveAll_records g onward (start reporter) (t :: ts)
  going h := by
    have hv : ((start reporter).feed g (t :: ts).flatten).scanner.fault = none := by rwa [receive_eq] at h
    rw [receive_eq]
    obtain ⟨replies, he, hn⟩ := receiveAll_append hv []
    rw [List.append_nil, receiveAll_nil, List.append_nil] at he
    rw [← he] at hn
    exact ⟨hn, (halts_start g reporter _).trans (by rw [hv]; rfl)⟩
  halting v hv := haltsIn g reporter onward (t :: ts) hv

end Session

end BracketBalance
