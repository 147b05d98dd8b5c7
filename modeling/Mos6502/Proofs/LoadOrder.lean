import Mathlib.Data.List.Basic
import Mathlib.Logic.Equiv.Fin.Rotate
import Mos6502.Proofs.ByteWrites

/-!
# The order of loading

Every byte of a loaded image is the last one that some segment brings to its address. So segments
may change places as long as those that meet at an address keep their order
(`Rearranges.last?_eq_some`), a segment may be cut in two, and loading an image once more changes
nothing (`Image.loadInto_stable`). A segment may go past the last address or come past an address
more than once.
-/

namespace Mos6502

namespace Segment

/-- The addresses that the bytes of the segment go to, one for each byte. -/
def addresses (segment : Segment) : List Address :=
  segment.bytes.mapIdx fun index _ => segment.address + .ofNat index

/-- There is an address that both segments come past. -/
def Overlaps (first second : Segment) : Prop :=
  ∃ address ∈ first.addresses, address ∈ second.addresses

instance (first second : Segment) : Decidable (first.Overlaps second) :=
  inferInstanceAs (Decidable (∃ address ∈ first.addresses, address ∈ second.addresses))

theorem Overlaps.symm {first second : Segment} (overlaps : first.Overlaps second) :
    second.Overlaps first := by
  rcases overlaps with ⟨address, inFirst, inSecond⟩
  exact ⟨address, inSecond, inFirst⟩

/-- The byte that the segment leaves at an address, if it comes past it. -/
def left? (segment : Segment) (address : Address) : Option Byte :=
  Write.last? (Write.ofRun segment.address segment.bytes) address

theorem mem_addresses_of_left? {segment : Segment} {address : Address} {byte : Byte}
    (left : segment.left? address = some byte) : address ∈ segment.addresses := by
  have written := Write.exists_mem_of_last? left
  rcases List.mem_mapIdx.mp written with ⟨index, inside, same⟩
  exact List.mem_mapIdx.mpr ⟨index, inside, congrArg Write.address same⟩

end Segment

namespace Write

theorem last?_ofImage_eq_none_iff {segments : List Segment} {address : Address} :
    last? (ofImage ⟨segments⟩) address = none ↔
      ∀ segment ∈ segments, segment.left? address = none := by
  induction segments with
  | nil => exact ⟨fun _ => nofun, fun _ => rfl⟩
  | cons segment segments ih =>
      rw [ofImage_cons, last?_append, Option.or_eq_none_iff, ih, List.forall_mem_cons, and_comm]
      rfl

/-- What an image writes at an address is left there by a segment that no later one meets. -/
theorem last?_ofImage_eq_some_iff {segments : List Segment} {address : Address} {byte : Byte} :
    last? (ofImage ⟨segments⟩) address = some byte ↔
      ∃ index : Fin segments.length, (segments.get index).left? address = some byte ∧
        ∀ later, index < later → (segments.get later).left? address = none := by
  induction segments with
  | nil =>
      constructor
      · exact nofun
      · rintro ⟨index, _⟩
        exact index.elim0
  | cons segment segments ih =>
      have first : (∀ later : Fin segments.length, (segments.get later).left? address = none) ↔
          last? (ofImage ⟨segments⟩) address = none := by
        rw [last?_ofImage_eq_none_iff, List.forall_mem_iff_get]
      rw [ofImage_cons, last?_append, Option.or_eq_some_iff, ih, or_comm, and_comm, ← first]
      simp only [List.length_cons, Fin.exists_fin_succ, Fin.forall_fin_succ, List.get_cons_zero,
        List.get_cons_succ', Fin.succ_lt_succ_iff, Fin.succ_pos, Fin.not_lt_zero, forall_const,
        false_imp_iff, true_and]
      rfl

end Write

/-- An image has the segments of another, each in its place, and two of them that overlap have kept
their order. -/
structure Rearranges (image other : Image)
    (place : Fin image.segments.length ≃ Fin other.segments.length) : Prop where
  same : ∀ index, other.segments.get (place index) = image.segments.get index
  ordered : ∀ first second, first < second →
    (image.segments.get first).Overlaps (image.segments.get second) → place first < place second

namespace Rearranges

variable {image other : Image} {place : Fin image.segments.length ≃ Fin other.segments.length}

theorem symm (rearranges : Rearranges image other place) :
    Rearranges other image place.symm where
  same index := by rw [← rearranges.same, Equiv.apply_symm_apply]
  ordered first second before overlaps := by
    by_contra notBefore
    have distinct : place.symm second ≠ place.symm first :=
      fun equal => before.ne' (place.symm.injective equal)
    have behind := lt_of_le_of_ne (not_lt.mp notBefore) distinct
    have back : (image.segments.get (place.symm second)).Overlaps
        (image.segments.get (place.symm first)) := by
      rw [← rearranges.same, ← rearranges.same, Equiv.apply_symm_apply, Equiv.apply_symm_apply]
      exact overlaps.symm
    have after := rearranges.ordered _ _ behind back
    rw [Equiv.apply_symm_apply, Equiv.apply_symm_apply] at after
    exact absurd before (not_lt_of_gt after)

theorem last?_eq_some (rearranges : Rearranges image other place) {address : Address} {byte : Byte}
    (last : Write.last? (Write.ofImage image) address = some byte) :
    Write.last? (Write.ofImage other) address = some byte := by
  rcases Write.last?_ofImage_eq_some_iff.mp last with ⟨index, left, latest⟩
  refine Write.last?_ofImage_eq_some_iff.mpr ⟨place index, ?_, ?_⟩
  · rw [rearranges.same]
    exact left
  · intro later after
    obtain ⟨origin, rfl⟩ := place.surjective later
    rw [rearranges.same]
    rcases lt_trichotomy index origin with behind | rfl | before
    · exact latest origin behind
    · exact absurd after (lt_irrefl _)
    · -- A segment from further ahead would still be ahead if it met this one.
      apply Option.eq_none_iff_forall_ne_some.mpr
      intro other meets
      have overlaps : (image.segments.get origin).Overlaps (image.segments.get index) :=
        ⟨address, Segment.mem_addresses_of_left? meets, Segment.mem_addresses_of_left? left⟩
      exact absurd (rearranges.ordered origin index before overlaps) (not_lt_of_gt after)

theorem last?_eq (rearranges : Rearranges image other place) (address : Address) :
    Write.last? (Write.ofImage other) address = Write.last? (Write.ofImage image) address := by
  apply Option.ext
  intro byte
  exact ⟨rearranges.symm.last?_eq_some, rearranges.last?_eq_some⟩

theorem loadInto_eq (rearranges : Rearranges image other place) (memory : Memory) :
    other.loadInto memory = image.loadInto memory := by
  apply Memory.ext_read
  intro address
  rw [Memory.loadInto_eq_writeAll, Memory.loadInto_eq_writeAll, Memory.read_writeAll,
    Memory.read_writeAll, rearranges.last?_eq]

end Rearranges

namespace Image

theorem loadInto_cut (before after : List Segment) (address : Address) (first second : List Byte)
    (memory : Memory) :
    (Image.mk (before ++ ⟨address, first⟩ :: ⟨address + .ofNat first.length, second⟩ ::
        after)).loadInto memory =
      (Image.mk (before ++ ⟨address, first ++ second⟩ :: after)).loadInto memory := by
  simp only [loadInto, List.foldl_append, List.foldl_cons, Segment.loadInto, Memory.load_append]

/-- Neither rearranging an image, nor cutting a segment in two, nor loading the image once more
makes a difference to the memory. -/
theorem loadInto_stable (image : Image) (memory : Memory) :
    (∀ (other : Image) (place : Fin image.segments.length ≃ Fin other.segments.length),
      Rearranges image other place → other.loadInto memory = image.loadInto memory) ∧
    (∀ (before after : List Segment) (address : Address) (first second : List Byte),
      image.segments = before ++ ⟨address, first ++ second⟩ :: after →
      (Image.mk (before ++ ⟨address, first⟩ :: ⟨address + .ofNat first.length, second⟩ ::
        after)).loadInto memory = image.loadInto memory) ∧
    image.loadInto (image.loadInto memory) = image.loadInto memory := by
  refine ⟨?_, ?_, ?_⟩
  · intro other place rearranges
    exact rearranges.loadInto_eq memory
  · intro before after address first second split
    obtain ⟨segments⟩ := image
    cases split
    exact loadInto_cut before after address first second memory
  · simp only [Memory.loadInto_eq_writeAll, Memory.writeAll_writeAll]

/-- An image whose first segment goes past the last address and meets the second one there. -/
def wrapping : Image := ⟨[⟨0xFFFF, [0x20, 0xA9]⟩, ⟨0x0000, [0xA5]⟩, ⟨0x4242, [0x64]⟩]⟩

/-- The last segment meets no other and may come first. -/
theorem loadInto_stable_wrapping :
    let turned : Image := ⟨[⟨0x4242, [0x64]⟩, ⟨0xFFFF, [0x20, 0xA9]⟩, ⟨0x0000, [0xA5]⟩]⟩
    let cut : Image := ⟨[⟨0xFFFF, [0x20]⟩, ⟨0x0000, [0xA9]⟩, ⟨0x0000, [0xA5]⟩, ⟨0x4242, [0x64]⟩]⟩
    Rearranges wrapping turned (finRotate 3) ∧
      wrapping.segments =
        [] ++ ⟨0xFFFF, [0x20] ++ [0xA9]⟩ :: [⟨0x0000, [0xA5]⟩, ⟨0x4242, [0x64]⟩] ∧
      turned.loadInto .blank = wrapping.loadInto .blank ∧
      cut.loadInto .blank = wrapping.loadInto .blank := by
  intro turned cut
  have rearranges : Rearranges wrapping turned (finRotate 3) := ⟨by decide, by decide⟩
  have stable := loadInto_stable wrapping .blank
  exact ⟨rearranges, rfl, stable.1 turned _ rearranges, stable.2.1 [] _ 0xFFFF [0x20] [0xA9] rfl⟩

end Image

end Mos6502
