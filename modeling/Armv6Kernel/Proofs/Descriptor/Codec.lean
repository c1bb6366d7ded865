import Armv6Kernel.Proofs.Descriptor.Making

/-!
# Descriptors survive encoding

A word that decodes as a shape is the encoding of the descriptor that it decodes to, and a
descriptor can be encoded exactly if its own word decodes.  The fields that callers may set lie
apart from the tag and from the reserved bits, so a descriptor that can be encoded stays one
whatever is set in it.
-/

namespace Armv6Kernel

namespace Shape

theorem tidy (shape : Shape) : shape.layout.Tidy := by
  rcases shape with (_ | _ | _) | _ <;> exact ⟨by decide, by decide⟩

/-- No accessible field meets the tag or a reserved bit. -/
theorem mask_disjoint (shape : Shape) : ∀ field ∈ shape.layout.accessibleFields,
    field.bits.mask &&& shape.tagMask = 0 ∧ field.bits.mask &&& shape.reservedMask = 0 := by
  rcases shape with (_ | _ | _) | _ <;> decide

end Shape

namespace Descriptor

variable {shape : Shape}

/-- Encoding panics exactly on the descriptors whose own word does not decode. -/
theorem encode_eq_error_iff (descriptor : Descriptor shape) :
    (∃ cause, descriptor.encode = .error cause) ↔ decode? shape descriptor.word = none := by
  unfold encode decode?
  cases tagHolds : descriptor.tagMatches <;> cases reservedHolds : descriptor.reservedClear <;>
    simp [isWellFormed, tagHolds, reservedHolds]

end Descriptor

/-- How the words and the descriptors of a shape correspond, and what setting fields does to
them. -/
structure Shape.Codec (shape : Shape) : Prop where
  encode_of_decode : ∀ word (descriptor : Descriptor shape),
    Descriptor.decode? shape word = some descriptor → descriptor.encode = .ok word
  panics_iff : ∀ descriptor : Descriptor shape,
    (∃ cause, descriptor.encode = .error cause) ↔
      Descriptor.decode? shape descriptor.word = none
  decode_of_encode : ∀ (descriptor : Descriptor shape) word, descriptor.encode = .ok word →
    Descriptor.decode? shape word = some descriptor
  fresh : Descriptor.decode? shape (Descriptor.fresh shape).word = some (.fresh shape)
  /-- A setter changes its own field alone, in any word. -/
  set : ∀ call : SetterCall, call.Suits shape.layout → ∀ word, ∃ changed,
    call.run word = .ok changed ∧ call.field.value changed = call.value ∧
      (∀ index, index < call.field.bits.offset ∨
          call.field.bits.offset + call.field.width ≤ index →
        changed.getLsbD index = word.getLsbD index) ∧
      ∀ other ∈ shape.layout.accessibleFields, other.name ≠ call.field.name →
        other.value changed = other.value word
  /-- Any calls leave a descriptor that still encodes, with the values that were set last. -/
  setAll : ∀ calls : List SetterCall, (∀ call ∈ calls, call.Suits shape.layout) →
    ∀ start : Descriptor shape, Descriptor.decode? shape start.word = some start →
      ∃ final : Descriptor shape, SetterCall.runAll calls start.word = .ok final.word ∧
        final.encode = .ok final.word ∧ Descriptor.decode? shape final.word = some final ∧
        ∀ field ∈ shape.layout.accessibleFields,
          field.value final.word = SetterCall.lastValue field calls (field.value start.word)

namespace Descriptor

variable {shape : Shape}

/-- Setting fields keeps a descriptor one of its shape. -/
theorem decode?_putAll {calls : List SetterCall}
    (suited : ∀ call ∈ calls, call.Suits shape.layout) {start : Descriptor shape}
    (decoded : decode? shape start.word = some start) :
    decode? shape (SetterCall.putAll calls start.word) =
      some ⟨SetterCall.putAll calls start.word⟩ := by
  obtain ⟨-, tagged, clear⟩ := decode?_eq_some_iff.mp decoded
  have outside := shape.mask_disjoint
  rw [decode?_eq_some_iff,
    SetterCall.putAll_and suited fun field member => (outside field member).1,
    SetterCall.putAll_and suited fun field member => (outside field member).2]
  exact ⟨rfl, tagged, clear⟩

theorem decode?_fresh (shape : Shape) : decode? shape (fresh shape).word = some (fresh shape) := by
  rcases shape with (_ | _ | _) | _ <;> rfl

/-- The words and the descriptors of each shape correspond, and no setter can break a descriptor. -/
theorem codec (shape : Shape) : shape.Codec where
  encode_of_decode := by
    intro word descriptor decoded
    obtain rfl := word_of_decode? decoded
    exact encode_of_decode? decoded
  panics_iff := encode_eq_error_iff
  decode_of_encode := by
    intro descriptor word encoded
    obtain ⟨decoded, rfl⟩ := (encode_eq_ok_iff descriptor word).mp encoded
    exact decoded
  fresh := decode?_fresh shape
  set := by
    intro call suited word
    refine ⟨_, SetterCall.run_of_admits suited.admitted word, ?_, ?_, ?_⟩
    · rw [shape.tidy.value_put suited suited.accessible, if_pos rfl]
    · intro index outside
      rw [NamedField.put, BitField.getLsbD_put, if_neg (by omega)]
    · intro other member different
      rw [shape.tidy.value_put suited member, if_neg different.symm]
  setAll := by
    intro calls suited start decoded
    have kept := decode?_putAll suited decoded
    exact ⟨⟨SetterCall.putAll calls start.word⟩, SetterCall.runAll_eq suited start.word,
      encode_of_decode? kept, kept,
      fun field member => SetterCall.value_putAll shape.tidy suited member start.word⟩

/-- The second of two permissions counts, and a base that does not fit is refused. -/
example :
    SetterCall.runAll [
      ⟨.permission "ap" Granule.section1M.attributes.permission, .permission .fullAccess, false⟩,
      ⟨.number "base_1m" Granule.section1M.frameField 16, .number 0x202, false⟩,
      ⟨.permission "ap" Granule.section1M.attributes.permission, .permission .userReadOnly, false⟩,
      ⟨.number "base_1m" Granule.section1M.frameField 16, .number 0x1000, true⟩]
      (fresh (.mapping .section1M)).word = .ok 0x20200802 :=
  rfl

end Descriptor

end Armv6Kernel
