import RVDataFusionServer.SignalControl.FrameAll

/-!
# Byte stuffing with the marks of the protocol

The escape byte is itself one of the bytes that are escaped, so that `DeTransferMean` undoes
`TransferMean`, whatever stands next to the first and the last byte, which are not escaped.
-/

namespace RVDataFusionServer

open Library

/-- The escape byte is itself escaped. -/
theorem escapeByte_mem_needSet : escapeByte ∈ needSet := by decide

/-- The bytes between the first one and the last one. -/
def interior (bytes : List UInt8) : List UInt8 := bytes.tail.dropLast

/-- Stuffed bytes are restored, and between the first one and the last one no mark stands without an
escape byte in front of it. -/
theorem stuffing_round_trip {input : List UInt8} (h : input ≠ []) :
    ∃ out, transferMean input escapeByte needSet = .ok out ∧
      deTransferMean out escapeByte needSet = .ok input ∧
      Escaped escapeByte needSet (interior out) := by
  cases input with
  | nil => exact absurd rfl h
  | cons first rest =>
      obtain rfl | ⟨middle, last, rfl⟩ := rest.eq_nil_or_concat
      · -- a single byte is both the first one and the last one
        exact ⟨[first], rfl, rfl, .nil⟩
      rw [List.concat_eq_append]
      refine ⟨_, transferMean_eq first middle last, ?_, ?_⟩
      · rw [deTransferMean_eq, unescape_escape_append _ _ escapeByte_mem_needSet]
        rfl
      · rw [interior, List.tail_cons, List.dropLast_concat]
        exact escaped_escape escapeByte needSet middle

/-- Escape bytes next to both ends. -/
theorem stuffing_round_trip_escapes :
    ∃ out, transferMean [0x7e, 0x5c, 0x5c, 0x7d, 0x5c, 0x7d] escapeByte needSet = .ok out ∧
      deTransferMean out escapeByte needSet = .ok [0x7e, 0x5c, 0x5c, 0x7d, 0x5c, 0x7d] ∧
      Escaped escapeByte needSet (interior out) :=
  stuffing_round_trip (List.cons_ne_nil _ _)

end RVDataFusionServer
