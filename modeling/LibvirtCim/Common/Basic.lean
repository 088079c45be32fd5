import Mathlib.Data.Nat.Notation

/-!
# Vocabulary shared by the providers

The status every provider entry point returns, the domain states of libvirt, and
the string comparisons the C code uses throughout.
-/

namespace LibvirtCim

/-- The failing values of `CMPIrc` the modelled providers use. -/
inductive CmpiErr
  | failed | invalidParameter | notFound | alreadyExists | notSupported | noSuchProperty
  | invalidClass
  deriving DecidableEq, Repr

/-- `CMPIStatus`. -/
inductive CmpiStatus
  | ok
  | error (rc : CmpiErr) (msg : String)
  deriving DecidableEq, Repr

/-- `virt_set_status`: the message, and behind it what the last error of libvirt says. Only where
statuses are compared between runs is the error part of the model; elsewhere such a status is its
message. -/
def virtSetStatus (rc : CmpiErr) (lastError : Option String) (msg : String) : CmpiStatus :=
  .error rc (msg ++ ": " ++ lastError.getD "(none)")

@[simp] theorem virtSetStatus_ne_ok (rc : CmpiErr) (lastError : Option String) (msg : String) :
    virtSetStatus rc lastError msg ≠ .ok :=
  fun h => CmpiStatus.noConfusion h

/-- `CMPI_RC_ERR_FAILED` with a message, by far the most frequent failure. -/
abbrev CmpiStatus.failed (msg : String) : CmpiStatus :=
  .error .failed msg

/-- `virDomainState`. -/
inductive VirDomainState
  | nostate | running | blocked | paused | shutdown | shutoff | crashed | pmsuspended
  deriving DecidableEq, Repr

/-- `STREQC`: equality up to the case of ASCII letters. -/
def streqc (a b : String) : Bool :=
  a.toList.map Char.toLower = b.toList.map Char.toLower

theorem streqc_refl (a : String) : streqc a a = true := by
  simp [streqc]

theorem streqc_comm (a b : String) : streqc a b = streqc b a := by
  simp only [streqc, eq_comm]

/-- What is equal up to case compares alike. -/
theorem streqc_congr {a b : String} (h : streqc a b) (c : String) : streqc a c = streqc b c := by
  have hlower : a.toList.map Char.toLower = b.toList.map Char.toLower := of_decide_eq_true h
  rw [streqc, streqc, hlower]

/-- A character that is in neither case in the one text is not in the other. -/
theorem not_mem_of_streqc {a b : String} (h : streqc a b) {c : Char}
    (hc : c.toLower ∉ b.toList.map Char.toLower) : c ∉ a.toList := by
  have hlower : a.toList.map Char.toLower = b.toList.map Char.toLower := of_decide_eq_true h
  intro hmem
  apply hc
  rw [← hlower]
  exact List.mem_map_of_mem hmem

/-- `STARTS_WITH`. -/
def startsWith (s pre : String) : Bool :=
  pre.toList.isPrefixOf s.toList

end LibvirtCim
