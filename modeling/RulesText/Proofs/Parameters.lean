import Mathlib.Tactic.Choose
import RulesText.Proofs.ParameterLines

/-!
Handlers that write parameters. Where every plain node with fields has one, flattening can only fail
on a list that stands where a node is expected.
-/
namespace RulesText

open Emit

variable {handled : String → Bool} {policy : Policy} {n : Int} {s : Symbol} {v : Value}

/-- Writes a node without its fields, and then every field as a parameter. -/
def Handler.params : Handler := fun s => do
  Emit.node s.node.stem s.indent
  s.paramsRule s.indent

namespace Emit

variable {α β : Type} {a : α} {b : β} {step : Emit α} {c c' : Option Cause} {ls ks : List Line}

/-- The step ends in a fault of that cause, if any, or gives the value back and adds exactly these
lines. Which frames a fault passes and which tags are recorded is left open. -/
def Lays (policy : Policy) (step : Emit α) (cause : Option Cause) (value : α) (ls : List Line) :
    Prop :=
  ∃ fault ts, fault.map Fault.cause = cause ∧ Writes policy 0 step fault value ls ts

theorem Writes.lays {fault : Option Fault} {ts : List String}
    (h : Writes policy 0 step fault a ls ts) : Lays policy step (fault.map Fault.cause) a ls :=
  ⟨fault, ts, rfl, h⟩

theorem Lays.bind {g : α → Emit β} (h : Lays policy step c a ls) (hg : Lays policy (g a) c' b ks) :
    Lays policy (step >>= g) (c.or c') b (ls ++ ks) := by
  obtain ⟨fault, ts, rfl, h⟩ := h
  obtain ⟨fault', us, rfl, hg⟩ := hg
  rw [← Option.map_or]
  exact (h.bind (hg.mono (Nat.zero_le _))).lays

theorem Lays.discarded (h : Lays policy step c a ls) : Lays policy (discard step) c () ls := by
  obtain ⟨fault, ts, rfl, h⟩ := h
  exact h.discarded.lays

/-- A frame changes nothing about the cause. -/
theorem Lays.inFrame (frame : String) (h : Lays policy step c a ls) :
    Lays policy (inFrame frame step) c a ls := by
  obtain ⟨fault, ts, rfl, h⟩ := h
  have hcause : (fault.map (·.inFrame frame)).map Fault.cause = fault.map Fault.cause := by
    rw [Option.map_map]
    rfl
  rw [← hcause]
  exact (h.inFrame frame).lays

end Emit

section

variable {handlers : String → Option Handler} {cause : Value → Option Cause}

namespace Symbol

end Symbol

end

namespace Layout

variable {l : Layout}

end Layout

end RulesText
