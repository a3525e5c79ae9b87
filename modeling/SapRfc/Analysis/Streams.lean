import SapRfc.Program.SyncConnection

/-!
# Reading from a stream

What a reader does to a byte stream.  It takes bytes off the front and notes for each
the request that was outstanding (`Reads`), and while the plan of an exchange lets it, it
ends as the same reader ends on a socket that holds just those bytes and is closed behind
them (`tracks_read_closed`).  So what an exchange on a fresh stream does is decided by its
request, its plan and the bytes of the answer.
-/

set_option autoImplicit false

namespace SapRfc.Analysis

open SapRfc.Library SapRfc.Program

variable {π : Type}

/-! ## What reading does -/

/-- Some bytes were read while the same request was outstanding. -/
structure Reads (w w' : Wire π) : Prop where
  peer : w'.peer = w.peer
  sent : w'.sent = w.sent
  plans : w'.plans = w.plans
  took : ∃ k, w'.unread = w.unread.drop k ∧
    w'.taken = w.taken ++ (w.unread.take k).map fun b => (w.sent, b.2)

theorem Reads.refl (w : Wire π) : Reads w w := ⟨rfl, rfl, rfl, 0, by simp⟩

theorem Reads.trans (a b c : Wire π) (h : Reads a b) (h' : Reads b c) : Reads a c := by
  obtain ⟨hpeer, hsent, hplans, j, hj, hj'⟩ := h
  obtain ⟨hpeer', hsent', hplans', k, hk, hk'⟩ := h'
  refine ⟨hpeer'.trans hpeer, hsent'.trans hsent, hplans'.trans hplans, j + k, ?_, ?_⟩
  · rw [hk, hj, List.drop_drop]
  · rw [hk', hj', hj, hsent, List.take_add, List.map_append, List.append_assoc]

theorem reads_took (w : Wire π) (now : Plan) (k : ℕ) :
    Reads w (({ w with now := now } : Wire π).took k) :=
  ⟨rfl, rfl, rfl, k, rfl, rfl⟩

variable (l : Link π)

theorem keeps_recv_exactly (n : ℕ) : Eff.Keeps Reads (Wire.recv_exactly l n) := by
  intro w
  unfold Wire.recv_exactly
  by_cases hn : n = 0
  · rw [if_pos hn]
    exact Reads.refl w
  · rw [if_neg hn]
    have hread : Reads w (Wire.readBytes l n { w with now := w.now.tail }).2 := by
      unfold Wire.readBytes
      split
      · exact reads_took w _ _
      · exact reads_took w _ _
    simp only [Eff.run_mk]
    cases w.now.headD .proceed with
    | proceed => exact hread
    | refuse e => exact ⟨rfl, rfl, rfl, 0, by simp⟩
    | fail lost e => exact reads_took w _ _
    | drop => exact hread

theorem keeps_reader (u : Unicode) (reader : Reader) :
    Eff.Keeps Reads (reader.read (Wire.recv_message l u)) := by
  refine keeps_read Reads.refl Reads.trans ?_ reader
  exact keeps_recv_message Reads.refl Reads.trans (keeps_recv_exactly l)

/-! ## The reader on a closed socket -/

/-- If the choice makes a step raise, it raises an `M`. -/
def Raises (M : PyError → Prop) : Choice → Prop
  | .proceed => True
  | .refuse e => M e
  | .fail _ e => M e
  | .drop => True

/-- Whatever the plan makes a step raise is an `M`. -/
def Only (M : PyError → Prop) (plan : Plan) : Prop := ∀ choice ∈ plan, Raises M choice

instance (M : PyError → Prop) [DecidablePred M] (choice : Choice) : Decidable (Raises M choice) :=
  match choice with
  | .proceed => .isTrue trivial
  | .refuse e => inferInstanceAs (Decidable (M e))
  | .fail _ e => inferInstanceAs (Decidable (M e))
  | .drop => .isTrue trivial

instance (M : PyError → Prop) [DecidablePred M] (plan : Plan) : Decidable (Only M plan) :=
  inferInstanceAs (Decidable (∀ choice ∈ plan, Raises M choice))

/-- The stream holds these bytes, and what is left of the plan raises an `M` only. -/
def Carries (M : PyError → Prop) (w : Wire π) (bytes : Bytes) : Prop :=
  w.unread.map Prod.fst = bytes ∧ Only M w.now

/-- A reader over the bytes of an answer alone. -/
def closed_read (u : Unicode) (reader : Reader) : Eff PyError Bytes Bytes :=
  reader.read (Program.recv_message u (recv_exactly_closed l.short))

variable {M : PyError → Prop}

theorem Only.tail {plan : Plan} (h : Only M plan) : Only M plan.tail :=
  fun choice hmem => h choice (List.mem_of_mem_tail hmem)

theorem Only.head {plan : Plan} (h : Only M plan) : Raises M (plan.headD .proceed) := by
  cases plan with
  | nil => exact trivial
  | cons choice rest => exact h choice List.mem_cons_self

theorem tracks_recv_exactly_closed (n : ℕ) :
    Eff.Tracks (Carries M) M (Wire.recv_exactly l n) (recv_exactly_closed l.short n) := by
  intro w bytes ⟨hbytes, hnow⟩
  have hlen : w.unread.length = bytes.length := by rw [← hbytes, List.length_map]
  unfold Wire.recv_exactly recv_exactly_closed ChunkedReads.exactly
  by_cases hn : n = 0
  · subst hn
    exact .inl ⟨rfl, hbytes, hnow⟩
  · rw [if_neg hn]
    have hread : (Wire.readBytes l n { w with now := w.now.tail }).1 =
          (Eff.run (recv_exactly_closed l.short n) bytes).1 ∧
        Carries M (Wire.readBytes l n { w with now := w.now.tail }).2
          (Eff.run (recv_exactly_closed l.short n) bytes).2 := by
      unfold Wire.readBytes recv_exactly_closed ChunkedReads.exactly
      simp only [Eff.run_mk, hlen]
      split
      · refine ⟨rfl, ?_, hnow.tail⟩
        simp [Wire.took, ← hlen]
      · refine ⟨?_, ?_, hnow.tail⟩
        · rw [← hbytes, List.map_take]
        · rw [← hbytes]
          simp [Wire.took, List.map_drop]
    have hhead := hnow.head
    simp only [Eff.run_mk]
    cases hc : w.now.headD .proceed with
    | proceed => exact .inl hread
    | refuse e =>
      rw [hc] at hhead
      exact .inr ⟨e, rfl, hhead⟩
    | fail lost e =>
      rw [hc] at hhead
      exact .inr ⟨e, rfl, hhead⟩
    | drop => exact .inl hread

theorem tracks_read_closed (u : Unicode) (reader : Reader) :
    Eff.Tracks (Carries M) M (reader.read (Wire.recv_message l u)) (closed_read l u reader) :=
  tracks_read (tracks_recv_message (tracks_recv_exactly_closed l)) reader

/-! ## Fresh streams -/

/-- Every byte that was read answers the request that was outstanding. -/
def Own (w : Wire π) : Prop := ∀ e ∈ w.taken, e.1 = e.2

/-- Every byte that was read was a reply to its request, and no byte is left. -/
structure Fresh (w : Wire π) : Prop where
  own : Own w
  empty : w.unread = []

/-- Bytes that all answer the present request are read as its reply. -/
theorem Reads.own {w w' : Wire π} (h : Reads w w') (hown : Own w)
    (hmine : ∀ b ∈ w.unread, b.2 = w.sent) : Own w' := by
  obtain ⟨k, -, htaken⟩ := h.took
  intro e he
  rw [htaken] at he
  cases List.mem_append.mp he with
  | inl hold => exact hown e hold
  | inr hnew =>
    obtain ⟨b, hb, rfl⟩ := List.mem_map.mp hnew
    exact (hmine b (List.mem_of_mem_take hb)).symm

/-- A reader on a closed socket raises what the guard of a call gives up at. -/
theorem throws_closed_read (u : Unicode) (reader : Reader) :
    Eff.Throws GivesUp (closed_read l u reader) := by
  have hvalue : ∀ text, GivesUp (err .value text) := fun _ => ⟨rfl, rfl⟩
  have hclosed : ∀ n, Eff.Throws GivesUp (recv_exactly_closed l.short n) := by
    intro n b e he
    unfold recv_exactly_closed ChunkedReads.exactly at he
    simp only [Eff.run_mk] at he
    split at he
    · cases he
      unfold GivesUp
      rw [l.short_eof]
      exact ⟨rfl, rfl⟩
    · cases he
  have hframe : Eff.Throws GivesUp (Program.recv_message u (recv_exactly_closed l.short)) := by
    unfold Program.recv_message
    refine Eff.Throws.bind (hclosed 4) fun header =>
      Eff.Throws.ite _ (Eff.Throws.throw (hvalue _)) ?_
    refine Eff.Throws.bind (hclosed _) fun payload => ?_
    refine Eff.Throws.bind (fun s e he => ?_) fun _ => Eff.Throws.pure _
    unfold raise_for_ni_error at he
    simp only [Eff.run_lift] at he
    split at he
    · cases he
      exact ⟨rfl, rfl⟩
    · cases he
  cases reader with
  | frame => exact hframe
  | frames func_name => exact throws_join_response_frames hvalue hframe

/-! ## An exchange on a fresh stream -/

/-- The plan of the exchange that begins in this state. -/
def planOf (w : Wire π) : Plan := w.plans.headD []

/-- Nothing is written: the request fits no frame, or the send raises at once. -/
def Unsent (w : Wire π) (request : Bytes) : Prop :=
  (∃ e, build_ni_frame request = .error e) ∨ ∃ e, w.firstChoice = .refuse e

/-- The bytes that the peer sends to the request. -/
def answer (w : Wire π) (request : Bytes) : Bytes := (l.serve w.peer request).1

/-- The bytes of the answer that reach this side. -/
def arriving (w : Wire π) (request : Bytes) : Bytes :=
  if w.firstChoice = .drop then [] else answer l w request

/-- A request that is not sent changes nothing but the plan. -/
theorem round_trip_unsent (u : Unicode) (reader : Reader) {request : Bytes} {w : Wire π}
    (h : Unsent w request) :
    ∃ e w', Eff.run ((wireSeam u l).round_trip reader request) w = (.error e, w') ∧
      w'.unread = w.unread ∧ w'.taken = w.taken ∧ w'.sent = w.sent := by
  unfold Seam.round_trip wireSeam
  simp only [Eff.run_bind]
  unfold Wire.send_message
  simp only [Eff.run_mk]
  cases hni : build_ni_frame request with
  | error e => exact ⟨e, w, rfl, rfl, rfl, rfl⟩
  | ok frame =>
    cases h with
    | inl hlong =>
      obtain ⟨e, he⟩ := hlong
      rw [hni] at he
      cases he
    | inr hrefused =>
      obtain ⟨e, he⟩ := hrefused
      simp only [he]
      exact ⟨e, w.nextPlan, rfl, rfl, rfl, rfl⟩

/-- How an exchange on a fresh stream ends, while what the plan makes it raise is an `M`. -/
inductive Ending (u : Unicode) (M : PyError → Prop) (reader : Reader) (request : Bytes)
    (w : Wire π) : Except PyError Bytes → Wire π → Prop
  | raised {e : PyError} {w' : Wire π} (he : M e) (hown : Own w') :
      Ending u M reader request w (.error e) w'
  | read {r : Except PyError Bytes} {w' : Wire π} (hown : Own w')
      (hr : r = (Eff.run (closed_read l u reader) (arriving l w request)).1)
      (hrest : w'.unread.map Prod.fst =
        (Eff.run (closed_read l u reader) (arriving l w request)).2) :
      Ending u M reader request w r w'

/-- INTERNAL: from the state behind the send. -/
theorem ending_of_sent {u : Unicode} {reader : Reader} {request : Bytes} {w v : Wire π}
    (hcarries : Carries M v (arriving l w request)) (hown : Own v)
    (hmine : ∀ b ∈ v.unread, b.2 = v.sent) :
    Ending l u M reader request w (Eff.run (reader.read (Wire.recv_message l u)) v).1
      (Eff.run (reader.read (Wire.recv_message l u)) v).2 := by
  have hown' := (keeps_reader l u reader v).own hown hmine
  cases tracks_read_closed l u reader v _ hcarries with
  | inl same =>
    obtain ⟨hr, hrest, -⟩ := same
    exact .read hown' hr hrest
  | inr raised =>
    obtain ⟨e, he, hM⟩ := raised
    rw [he]
    exact .raised hM hown'

theorem round_trip_ending (u : Unicode) (reader : Reader) {request : Bytes} {w : Wire π}
    (hfresh : Fresh w) (hsent : ¬ Unsent w request) (hplan : Only M (planOf w)) :
    Ending l u M reader request w
      (Eff.run ((wireSeam u l).round_trip reader request) w).1
      (Eff.run ((wireSeam u l).round_trip reader request) w).2 := by
  obtain ⟨hown, hempty⟩ := hfresh
  have hfirst : Raises M w.firstChoice := hplan.head
  unfold Seam.round_trip wireSeam
  simp only [Eff.run_bind]
  unfold Wire.send_message
  simp only [Eff.run_mk]
  cases hni : build_ni_frame request with
  | error e => exact absurd (.inl ⟨e, hni⟩) hsent
  | ok _ =>
    cases hc : w.firstChoice with
    | refuse e => exact absurd (.inr ⟨e, hc⟩) hsent
    | fail lost e =>
      rw [hc] at hfirst
      exact .raised hfirst hown
    | proceed =>
      have harriving : arriving l w request = answer l w request := by simp [arriving, hc]
      refine ending_of_sent l ⟨?_, hplan.tail⟩ hown fun b hb => ?_
      · rw [harriving]
        show (w.unread ++ _).map Prod.fst = _
        simp [hempty, answer, Wire.nextPlan, Function.comp_def]
      · have hb : b ∈ w.unread ++ _ := hb
        rw [hempty, List.nil_append] at hb
        obtain ⟨x, -, rfl⟩ := List.mem_map.mp hb
        rfl
    | drop =>
      have harriving : arriving l w request = [] := by simp [arriving, hc]
      refine ending_of_sent l ⟨?_, hplan.tail⟩ hown fun b hb => ?_
      · rw [harriving]
        show w.unread.map Prod.fst = []
        rw [hempty]
        rfl
      · have hb : b ∈ w.unread := hb
        rw [hempty] at hb
        cases hb

end SapRfc.Analysis
