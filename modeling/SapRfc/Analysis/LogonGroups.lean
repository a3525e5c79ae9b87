import Mathlib.Data.Set.Disjoint
import Mathlib.Order.CompletePartialOrder
import SapRfc.Program.MessageServer

/-!
# Which server a logon group gets

The three messages of a resolution are the same for every group: the name reaches the
text of one error and nothing else.  So two groups get one answer, whatever the message
server does, and two groups that share no server cannot both get a server of their own.
-/

set_option autoImplicit false

namespace SapRfc.Analysis.LogonGroups

open SapRfc.Library SapRfc.Program

section Resolution

variable {ι α β : Type} {u : Unicode} {transport : InnerTransport ι}

/-- Whatever `x` returns, `y` returns from the same state, and leaves the same state. -/
def ReturnsToo (x y : Eff PyError ι α) : Prop :=
  ∀ s a s', Eff.run x s = (.ok a, s') → Eff.run y s = (.ok a, s')

theorem ReturnsToo.refl (x : Eff PyError ι α) : ReturnsToo x x := fun _ _ _ h => h

theorem ReturnsToo.bind (x : Eff PyError ι α) {f g : α → Eff PyError ι β}
    (h : ∀ a, ReturnsToo (f a) (g a)) : ReturnsToo (x >>= f) (x >>= g) := by
  intro s b s'' hrun
  obtain ⟨a, s', hx, hf⟩ := Eff.run_bind_eq_ok hrun
  rw [Eff.run_bind_ok hx]
  exact h a s' b s'' hf

theorem ReturnsToo.ite (c : Prop) [Decidable c] {x y : Eff PyError ι α} (z : Eff PyError ι α)
    (h : ReturnsToo x y) : ReturnsToo (if c then z else x) (if c then z else y) := by
  split
  · exact ReturnsToo.refl z
  · exact h

/-- INTERNAL: the group is in the text of an error only. -/
theorem choose_server_ok (group other : PyStr) {records : List (List (PyStr × PyStr))}
    {server : PyStr × ℤ} (h : choose_server u group records = .ok server) :
    choose_server u other records = .ok server := by
  cases records with
  | nil => cases h
  | cons chosen rest => exact h

/-- A server that a group gets, every other group gets. -/
theorem resolve_full_returnsToo (group other sysid sysid' : PyStr) :
    ReturnsToo (resolve_full u transport group sysid) (resolve_full u transport other sysid') := by
  unfold resolve_full
  apply ReturnsToo.bind
  intro _
  apply ReturnsToo.bind
  intro attach_reply
  apply ReturnsToo.bind
  rintro ⟨errorno, toname, fromname, msgtype⟩
  apply ReturnsToo.ite
  apply ReturnsToo.bind
  intro _
  apply ReturnsToo.bind
  intro list_reply
  apply ReturnsToo.bind
  intro errorno
  apply ReturnsToo.ite
  apply ReturnsToo.bind
  intro records
  apply ReturnsToo.bind
  intro _ s server s' hrun
  have hchosen : choose_server u group records = .ok server := congrArg Prod.fst hrun
  have hstate : s = s' := congrArg Prod.snd hrun
  rw [Eff.run_lift, choose_server_ok group other hchosen, hstate]

/-- So it is where no system is named. -/
theorem resolve_returnsToo (group other : PyStr) :
    ReturnsToo (resolve u transport group) (resolve u transport other) :=
  resolve_full_returnsToo group other [] []

/-- SOURCE: router.py:438-506.  Two groups with no server in common never both get one of
their own: not over any connection, whatever the message server answers. -/
theorem resolve_full_never_both {servers : PyStr → Set (PyStr × ℤ)} {group other : PyStr}
    (hdisjoint : Disjoint (servers group) (servers other)) (sysid sysid' : PyStr) (s : ι) :
    ¬ ((∃ a, (Eff.run (resolve_full u transport group sysid) s).1 = .ok a ∧ a ∈ servers group) ∧
      ∃ b, (Eff.run (resolve_full u transport other sysid') s).1 = .ok b ∧ b ∈ servers other) := by
  rintro ⟨⟨a, ha, hmem⟩, b, hb, hmem'⟩
  have hsame := resolve_full_returnsToo group other sysid sysid' s a _ (Prod.ext ha rfl)
  rw [hsame] at hb
  obtain rfl := Except.ok.inj hb
  exact Set.disjoint_left.mp hdisjoint hmem hmem'

end Resolution

/-! ## A message server with two groups -/

/-- A message server whose answer is a function of the messages it received. -/
def answering (answer : List Bytes → Except PyError Bytes) : InnerTransport (List Bytes) where
  send_message := fun message => Eff.update (· ++ [message])
  recv_message := Eff.mk fun received => (answer received, received)

/-- The group that the messages name. -/
def group_named (received : List Bytes) : PyStr :=
  if received.any fun message => decide (encodeAsciiReplace (lit "SPACE") <:+: message) then
    lit "SPACE"
  else lit "PUBLIC"

/-- The host of a group. -/
def host_of (group : PyStr) : PyStr := if group = lit "SPACE" then lit "space" else lit "public"

/-- The servers of a group. -/
def servers_of (group : PyStr) : Set (PyStr × ℤ) := {(host_of group, 0)}

/-- A list of one server. -/
def list_reply (host : PyStr) : Bytes :=
  build_sapms_frame OP_REQUEST (lit "-") (lit "MSG_SERVER") FLAG_CLIENT 0 0 SAPMS_VERSION
    (OPCODE_REPLY ++ encodeLatin1Replace (lit "HOSTNAME=" ++ host ++ lit "|PORT=3200"))

/-- An attach is accepted, and a request is answered with the servers of the group that the
messages name. -/
def answer_by_group (received : List Bytes) : Except PyError Bytes :=
  match received with
  | [_] =>
    .ok (build_sapms_frame OP_ATTACH (lit "-") (lit "MSG_SERVER") FLAG_CLIENT 0 0 SAPMS_VERSION [])
  | _ => .ok (list_reply (host_of (group_named received)))

/-- A request that names the group `SPACE` is answered with its server. -/
theorem answer_by_group_space {attach request : Bytes}
    (h : encodeAsciiReplace (lit "SPACE") <:+: request) :
    answer_by_group [attach, request] = .ok (list_reply (lit "space")) := by
  have hnamed : group_named [attach, request] = lit "SPACE" := by
    unfold group_named
    rw [if_pos]
    simp [h]
  show Except.ok (list_reply (host_of (group_named [attach, request]))) = _
  rw [hnamed]
  rfl

theorem disjoint_servers_of : Disjoint (servers_of (lit "PUBLIC")) (servers_of (lit "SPACE")) := by
  rw [Set.disjoint_left]
  rintro a rfl h
  exact absurd (congrArg Prod.fst (Set.mem_singleton_iff.mp h)) (by decide)

theorem resolve_full_two_groups :
    ¬ ((∃ a, (Eff.run (resolve_full asciiTables (answering answer_by_group) (lit "PUBLIC") [])
          []).1 = .ok a ∧ a ∈ servers_of (lit "PUBLIC")) ∧
      ∃ b, (Eff.run (resolve_full asciiTables (answering answer_by_group) (lit "SPACE") [])
          []).1 = .ok b ∧ b ∈ servers_of (lit "SPACE")) :=
  resolve_full_never_both disjoint_servers_of [] [] []

set_option maxRecDepth 4000 in
/-- The group `SPACE` gets the server of the group `PUBLIC`, from a message server that lists
the server of `SPACE` to every request that names it. -/
theorem resolve_full_other_group :
    Disjoint (servers_of (lit "PUBLIC")) (servers_of (lit "SPACE")) ∧
      (∀ attach request, encodeAsciiReplace (lit "SPACE") <:+: request →
        answer_by_group [attach, request] = .ok (list_reply (lit "space"))) ∧
      (Eff.run (resolve_full asciiTables (answering answer_by_group) (lit "SPACE") []) []).1 =
        .ok (lit "public", 0) ∧
      (lit "public", 0) ∉ servers_of (lit "SPACE") := by
  refine ⟨disjoint_servers_of, fun _ _ => answer_by_group_space, by decide +kernel, ?_⟩
  intro h
  exact absurd (congrArg Prod.fst (Set.mem_singleton_iff.mp h)) (by decide)

end SapRfc.Analysis.LogonGroups
