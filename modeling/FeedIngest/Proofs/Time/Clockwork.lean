import FeedIngest.Time.Clockwork

/-!
# Machines that wait

Whatever relates a machine to itself after each waking relates it to itself after any wait.
-/

set_option autoImplicit false

namespace FeedIngest.Time.Clockwork

variable {α : Type} {k : Clockwork α} (Leads : α → α → Prop)

theorem runTo_leads (refl : ∀ machine, Leads machine machine)
    (trans : ∀ a b c, Leads a b → Leads b c → Leads a c)
    (wakes : ∀ now machine, Leads machine (k.wake now machine)) (start target : Nat) (machine : α) :
    Leads machine (k.runTo start target machine) := by
  fun_induction runTo k start target machine with
  | case1 => exact refl _
  | case2 start machine moment due ahead ih => exact trans _ _ _ (wakes _ machine) ih
  | case3 => exact refl _

theorem runUntil_leads (refl : ∀ machine, Leads machine machine)
    (trans : ∀ a b c, Leads a b → Leads b c → Leads a c)
    (wakes : ∀ now machine, Leads machine (k.wake now machine)) (done : α → Bool)
    (start limit last : Nat) (machine : α) :
    Leads machine (k.runUntil done start limit last machine).2 := by
  fun_induction runUntil k done start limit last machine with
  | case1 => exact refl _
  | case2 => exact refl _
  | case3 start last machine unfinished moment due ahead ih =>
    exact trans _ _ _ (wakes _ machine) ih
  | case4 => exact refl _

end FeedIngest.Time.Clockwork
