import DaemonClient.Http.Reply
import DaemonClient.Proofs.Outcome

/-! Octets that are no reply fail to be read as a connection fails (`fails_read`): with a fault of the protocol, which a
client reports as failed transport. The one exception is a length that no memory has. -/

namespace DaemonClient
open Outcome

/-- A reading of octets fails only with a fault of the protocol or for a length that memory does not hold. -/
def FailsAsRead {α : Type} (x : Except TransportFault α) : Prop :=
  ∀ f, x = .error f → f.isTransport = true ∨ f = .oversizedLength

namespace FailsAsRead

variable {α β : Type}

theorem ok (a : α) : FailsAsRead (.ok a) := by
  intro f h
  cases h

theorem error {f : TransportFault} (hf : f.isTransport = true) : FailsAsRead (.error f : Except TransportFault α) := by
  intro g h
  obtain rfl := Except.error.inj h
  exact .inl hf

theorem bind {x : Except TransportFault α} {g : α → Except TransportFault β} (h : FailsAsRead x)
    (hg : ∀ a, FailsAsRead (g a)) : FailsAsRead (x >>= g) := by
  cases x with
  | ok a => exact hg a
  | error f => exact fun f' h' => h f' (congrArg Except.error (Except.error.inj h'))

theorem map {x : Except TransportFault α} {g : α → β} (h : FailsAsRead x) : FailsAsRead (x.map g) := by
  cases x with
  | ok a => exact ok (g a)
  | error f => exact fun f' h' => h f' (congrArg Except.error (Except.error.inj h'))

end FailsAsRead

namespace Reply
open FailsAsRead

theorem fails_boundedLine (part : String) (bs : List UInt8) : FailsAsRead (boundedLine part bs) := by
  rw [boundedLine]
  split
  · exact error rfl
  · exact ok _

theorem fails_readStatusLine (line : List Char) : FailsAsRead (readStatusLine line) := by
  simp only [readStatusLine]
  split
  · exact error rfl
  split
  · split
    · exact ok _
    · exact error rfl
  · exact error rfl

theorem fails_headerLines (fuel : Nat) (bs : List UInt8) : FailsAsRead (headerLines fuel bs) := by
  induction fuel generalizing bs with
  | zero => exact error rfl
  | succ fuel ih =>
      rw [headerLines]
      apply (fails_boundedLine _ bs).bind
      intro r
      simp only
      split
      · split
        · exact error rfl
        · exact ok _
      · exact (ih _).bind fun _ => ok _

theorem fails_readHead (fuel : Nat) (bs : List UInt8) : FailsAsRead (readHead fuel bs) := by
  induction fuel generalizing bs with
  | zero => exact error rfl
  | succ fuel ih =>
      rw [readHead]
      apply (fails_boundedLine _ bs).bind
      intro r
      simp only
      split
      · exact error rfl
      apply (fails_readStatusLine _).bind
      intro s
      split
      · apply (fails_headerLines _ _).bind
        intro hs
        split
        · exact ih _
        · exact ok _
      · exact error rfl

theorem fails_skipTrailer (fuel : Nat) (bs : List UInt8) : FailsAsRead (skipTrailer fuel bs) := by
  induction fuel generalizing bs with
  | zero => exact ok _
  | succ fuel ih =>
      rw [skipTrailer]
      apply (fails_boundedLine _ bs).bind
      intro r
      simp only
      split
      · exact ok _
      · exact ih _

section
variable [Machine]

theorem fails_takeExactly (n : Int) (bs : List UInt8) : FailsAsRead (takeExactly n bs) := by
  rw [takeExactly]
  split
  · intro f h
    exact .inr (Except.error.inj h).symm
  split
  · exact ok _
  split
  · exact error rfl
  · exact ok _

theorem fails_readChunks (fuel : Nat) (done bs : List UInt8) : FailsAsRead (readChunks fuel done bs) := by
  induction fuel generalizing done bs with
  | zero => exact error rfl
  | succ fuel ih =>
      rw [readChunks]
      apply (fails_boundedLine _ bs).bind
      intro r
      simp only
      split
      · exact error rfl
      split
      · exact (fails_skipTrailer _ _).bind fun _ => ok _
      split
      · exact error rfl
      · rename_i hchunk
        exact fun f h => fails_takeExactly _ _ _ (hchunk.trans (congrArg Except.error (Except.error.inj h)))
      split
      · exact error rfl
      · exact ih _ _

theorem fails_readBody (method : String) (status : Nat) (hs : List Header) (bs : List UInt8) :
    FailsAsRead (readBody method status hs bs) := by
  rw [readBody]
  split
  · exact ok _
  split
  · exact fails_readChunks _ _ _
  split
  · exact ok _
  split
  · exact (fails_takeExactly _ _).map
  · exact ok _

/-- **Octets fail to be a reply as a connection fails**, or for a length that memory does not hold. -/
theorem fails_read (method : String) (bs : List UInt8) : FailsAsRead (read method bs) := by
  rw [read]
  apply (fails_readHead _ bs).bind
  intro r
  exact (fails_readBody _ _ _ _).bind fun _ => ok _

end

end Reply
end DaemonClient
