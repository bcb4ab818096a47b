import Mathlib.Computability.Language

/-!
# Lives of endpoints

An endpoint is absent, idle or joined.  Deeds take it from one phase to another, and the
deeds done to it spell one whole life after the other, the last of which may be going on.
-/

namespace NetworkPlugin

open scoped Computability

inductive Deed where
  | create
  | join
  | leave
  | delete
deriving DecidableEq

namespace Deed

def stays : Language Deed := {[join, leave]}∗

def life : Language Deed := {[create]} * stays * {[delete]}

def lives : Language Deed := life∗

theorem append_mem_kstar {language : Language Deed} {words word : List Deed}
    (starred : words ∈ language∗) (member : word ∈ language) : words ++ word ∈ language∗ := by
  obtain ⟨parts, rfl, all⟩ := Language.mem_kstar.mp starred
  refine Language.mem_kstar.mpr ⟨parts ++ [word], by simp, ?_⟩
  intro part isPart
  rcases List.mem_append.mp isPart with old | new
  · exact all part old
  · rwa [List.mem_singleton.mp new]

theorem append_mem_stays {stayed : List Deed} (stay : stayed ∈ stays) :
    stayed ++ [join, leave] ∈ stays :=
  append_mem_kstar stay (Set.mem_singleton _)

theorem append_mem_lives {lived stayed : List Deed} (live : lived ∈ lives)
    (stay : stayed ∈ stays) : lived ++ ([create] ++ stayed ++ [delete]) ∈ lives := by
  apply append_mem_kstar live
  exact Language.append_mem_mul
    (Language.append_mem_mul (Set.mem_singleton _) stay) (Set.mem_singleton _)

end Deed

/-! ## Phases -/

inductive Phase where
  | absent
  | idle
  | joined
deriving DecidableEq

namespace Phase

def next : Phase → Deed → Option Phase
  | absent, .create => some idle
  | idle, .join => some joined
  | idle, .delete => some absent
  | joined, .leave => some idle
  | _, _ => none

def follow (phase : Phase) : Option Deed → Option Phase
  | none => some phase
  | some deed => phase.next deed

def after : Option Deed → Phase
  | none | some .delete => absent
  | some .create | some .leave => idle
  | some .join => joined

theorem after_eq_absent {last : Option Deed} :
    after last = absent ↔ last = none ∨ last = some .delete := by
  rcases last with - | (- | - | - | -) <;> simp [after]

theorem after_eq_idle {last : Option Deed} :
    after last = idle ↔ last = some .create ∨ last = some .leave := by
  rcases last with - | (- | - | - | -) <;> simp [after]

theorem after_eq_joined {last : Option Deed} : after last = joined ↔ last = some .join := by
  rcases last with - | (- | - | - | -) <;> simp [after]

theorem eq_after_of_next {phase other : Phase} {deed : Deed}
    (moved : phase.next deed = some other) : other = after (some deed) := by
  cases phase <;> cases deed <;> cases moved <;> rfl

def Leads : Phase → List Deed → Prop
  | absent, deeds => deeds ∈ Deed.lives
  | idle, deeds => ∃ lived ∈ Deed.lives, ∃ stayed ∈ Deed.stays,
      deeds = lived ++ [.create] ++ stayed
  | joined, deeds => ∃ lived ∈ Deed.lives, ∃ stayed ∈ Deed.stays,
      deeds = lived ++ [.create] ++ stayed ++ [.join]

theorem Leads.next {phase other : Phase} {deeds : List Deed} {deed : Deed}
    (led : phase.Leads deeds) (moved : phase.next deed = some other) :
    other.Leads (deeds ++ [deed]) := by
  cases phase with
  | absent =>
      cases deed <;> cases moved
      exact ⟨deeds, led, [], Language.nil_mem_kstar _, by simp⟩
  | idle =>
      obtain ⟨lived, live, stayed, stay, rfl⟩ := led
      cases deed <;> cases moved
      · exact ⟨lived, live, stayed, stay, rfl⟩
      · simpa [Leads] using Deed.append_mem_lives live stay
  | joined =>
      obtain ⟨lived, live, stayed, stay, rfl⟩ := led
      cases deed <;> cases moved
      exact ⟨lived, live, stayed ++ [.join, .leave], Deed.append_mem_stays stay, by simp⟩

theorem Leads.extends {phase : Phase} {deeds : List Deed} (led : phase.Leads deeds) :
    ∃ whole ∈ Deed.lives, deeds <+: whole := by
  cases phase with
  | absent => exact ⟨deeds, led, List.prefix_rfl⟩
  | idle =>
      obtain ⟨lived, live, stayed, stay, rfl⟩ := led
      exact ⟨_, Deed.append_mem_lives live stay, [.delete], by simp⟩
  | joined =>
      obtain ⟨lived, live, stayed, stay, rfl⟩ := led
      exact ⟨_, Deed.append_mem_lives live (Deed.append_mem_stays stay), [.leave, .delete],
        by simp⟩

end Phase

end NetworkPlugin
