import Nxpod.Content.UploadChunks
import Nxpod.Library.Span
import Nxpod.Library.Word

/-!
# The Sections of an Upload

Which bytes of the file the goroutines of `uploadChunks` read. The sizes are integers of 64 bits.
The size of a section is a multiple of 256 KiB, and there is one section more than such
sections fit into the file. The last one is cut at the end of the file.

When the sections fit exactly, the last one is empty. When the end of the last one, as it is
before it is cut, is no integer of 64 bits, it is not cut. And since the size of a section is
rounded down, there may be more sections than were asked for, by many. `Upload` relies on there
being 32 at most, which is what can be composed at once.

## Main definitions

* `sectionSize`, `sections`: How the file is cut.
* `units`, `unitsEach`: The sizes in units of 256 KiB.
* `Composable`: The sections are a partition of the file, and not too many.
* `Fits`: The condition on the file.

## Theorems

* `toInt_sectionSize`: The size of a section.
* `bytesOf_full`, `bytesOf_last`, `bytesOf_wrapped`: The sections.
* `sections_sizes`: They have the sizes of the chunks.
* `composable_iff`: When the sections are as they should be.
-/

namespace Nxpod

namespace Content

namespace UploadSections

open Spans UploadChunks

/-! ## Cutting -/

/-- 256 KiB. -/
def minSectionSize : Int64 := 256 * 1024

/-- The size of a section in integers of 64 bits. -/
def sectionSize (totalSize desiredChunkCount : Int64) : Int64 :=
  let size := totalSize / desiredChunkCount / minSectionSize * minSectionSize
  if size < minSectionSize then minSectionSize else size

/-- What the goroutine with the index `i` reads. -/
def sectionAt (totalSize size : Int64) (i : Nat) : Span Int64 :=
  let off := Int64.ofNat i * size
  ⟨off, if off + size > totalSize then totalSize - off else size⟩

/-- The sections that are read, in their order. -/
def sections (totalSize desiredChunkCount : Int64) : Except String (List (Span Int64)) :=
  if totalSize = 0 then .error "Total size must be greater than zero"
  else if desiredChunkCount < 1 then
    .error "Desired chunk count must be greater (or equal to) one"
  else
    let size := sectionSize totalSize desiredChunkCount
    .ok ((List.range (totalSize / size + 1).toInt.toNat).map (sectionAt totalSize size))

/-- The bytes of a section. -/
def bytesOf (s : Span Int64) : Span Int := ⟨s.off.toInt, s.len.toInt⟩

theorem bytesOf_len (s : Span Int64) : (bytesOf s).len = s.len.toInt := rfl

/-- The number of pieces that one call composes. -/
def maxComposed : Nat := 32

/-- The sections are a partition of the file, and when no more were asked for than can be
    composed, there are no more. -/
def Composable (totalSize desiredChunkCount : Int64) : Prop :=
  ∃ ss, sections totalSize desiredChunkCount = .ok ss ∧
    Partition 0 totalSize.toInt (ss.map bytesOf) ∧
    (desiredChunkCount.toInt ≤ maxComposed → ss.length ≤ maxComposed)

/-! ## The condition -/

/-- The whole units of 256 KiB in a file. -/
def units (totalSize : Nat) : Nat := totalSize / minChunkSize

/-- The units that each of the desired parts has, and one at least. -/
def unitsEach (totalSize desiredChunkCount : Nat) : Nat :=
  max 1 (units totalSize / desiredChunkCount)

/-- The file is no multiple of the parts, the next multiple is an integer of 64 bits, and when no
    more than 32 parts were asked for, the whole units make less than 32 of them. -/
structure Fits (totalSize desiredChunkCount : Nat) : Prop where
  rest : ¬ unitsEach totalSize desiredChunkCount * minChunkSize ∣ totalSize
  bounded : (totalSize / (unitsEach totalSize desiredChunkCount * minChunkSize) + 1) *
    (unitsEach totalSize desiredChunkCount * minChunkSize) < 2 ^ 63
  few : desiredChunkCount ≤ maxComposed →
    units totalSize < maxComposed * unitsEach totalSize desiredChunkCount

theorem chunkSize_eq (totalSize desiredChunkCount : Nat) :
    chunkSize totalSize desiredChunkCount =
      unitsEach totalSize desiredChunkCount * minChunkSize := by
  have hdiv : totalSize / desiredChunkCount / minChunkSize =
      units totalSize / desiredChunkCount := by
    rw [units, Nat.div_div_eq_div_mul, Nat.div_div_eq_div_mul, Nat.mul_comm]
  unfold chunkSize unitsEach
  dsimp only
  rw [hdiv]
  generalize units totalSize / desiredChunkCount = k
  have hpos : 0 < minChunkSize := by decide
  -- a multiple of the unit is less than the unit exactly if it is zero
  cases k with
  | zero => rw [Nat.zero_mul, if_pos hpos, Nat.max_eq_left (Nat.zero_le 1), Nat.one_mul]
  | succ k =>
      have hge : minChunkSize ≤ (k + 1) * minChunkSize := Nat.le_mul_of_pos_left _ (by omega)
      rw [if_neg (Nat.not_lt.mpr hge), Nat.max_eq_right (by omega)]

/-! ## The sizes -/

section Sizes

variable {totalSize desiredChunkCount : Int64} {total desired : Nat}

/-- Dividing numbers that are not negative never overflows. -/
theorem toInt_div_of_nonneg {a b : Int64} (ha : 0 ≤ a.toInt) (hb : 1 ≤ b.toInt) :
    (a / b).toInt = a.toInt / b.toInt := by
  have hne : b ≠ -1 := by
    rintro rfl
    exact absurd hb (by decide)
  rw [Int64.toInt_div_of_ne_right _ _ hne, Int.tdiv_eq_ediv_of_nonneg ha]

theorem toInt_sectionSize (htotal : totalSize.toInt = total)
    (hdesired : desiredChunkCount.toInt = desired) (hcount : 1 ≤ desired) :
    (sectionSize totalSize desiredChunkCount).toInt = (chunkSize total desired : Nat) := by
  have hlt := totalSize.toInt_lt
  have hmin : minSectionSize.toInt = 262144 := rfl
  have hnat : minChunkSize = 262144 := rfl
  have hparts : (totalSize / desiredChunkCount).toInt = ((total / desired : Nat) : Int) := by
    rw [toInt_div_of_nonneg (by omega) (by omega), htotal, hdesired, Int.natCast_div]
  have hle : total / desired ≤ total := Nat.div_le_self _ _
  have hunits : (totalSize / desiredChunkCount / minSectionSize).toInt =
      ((total / desired / minChunkSize : Nat) : Int) := by
    rw [toInt_div_of_nonneg (by rw [hparts]; exact Int.natCast_nonneg _) (by rw [hmin]; decide),
      hparts, hmin, hnat, Int.natCast_div]
    rfl
  -- rounding down to a multiple does not overflow
  have hmul : (totalSize / desiredChunkCount / minSectionSize * minSectionSize).toInt =
      ((total / desired / minChunkSize * minChunkSize : Nat) : Int) := by
    have hround := Nat.div_mul_le_self (total / desired) minChunkSize
    rw [hnat] at hround hunits ⊢
    rw [Word.toInt_mul_of_bounds, hunits, hmin]
    · rfl
    · rw [hunits, hmin]; omega
    · rw [hunits, hmin]; omega
  unfold sectionSize chunkSize
  dsimp only
  by_cases hsmall : total / desired / minChunkSize * minChunkSize < minChunkSize
  · rw [if_pos hsmall, if_pos]
    · rfl
    · rw [Int64.lt_iff_toInt_lt, hmul, hmin]
      omega
  · rw [if_neg hsmall, if_neg, hmul]
    rw [Int64.lt_iff_toInt_lt, hmul, hmin]
    omega

end Sizes

/-! ## The sections -/

section Sections

variable {totalSize size : Int64} {i : Nat}

/-- Where a section begins that begins in the file, or at its end. -/
theorem toInt_off (hpos : 0 < size.toInt) (hle : i * size.toInt ≤ totalSize.toInt) :
    (Int64.ofNat i * size).toInt = i * size.toInt := by
  have hlt := totalSize.toInt_lt
  have hi : (i : Int) ≤ i * size.toInt := le_mul_of_one_le_right (Int.natCast_nonneg i) hpos
  have hcast : (Int64.ofNat i).toInt = i := by
    rw [Int64.toInt_ofNat_of_lt (by omega)]
  rw [Word.toInt_mul_of_bounds, hcast]
  · rw [hcast]; omega
  · rw [hcast]; omega

/-- A section that ends in the file, or at its end. -/
theorem bytesOf_full (hpos : 0 < size.toInt)
    (hle : i * size.toInt + size.toInt ≤ totalSize.toInt) :
    bytesOf (sectionAt totalSize size i) = ⟨i * size.toInt, size.toInt⟩ := by
  have hlt := totalSize.toInt_lt
  have hnonneg : 0 ≤ i * size.toInt := mul_nonneg (Int.natCast_nonneg i) hpos.le
  have hoff : (Int64.ofNat i * size).toInt = i * size.toInt :=
    toInt_off hpos (le_trans (Int.le_add_of_nonneg_right hpos.le) hle)
  have hend : (Int64.ofNat i * size + size).toInt = i * size.toInt + size.toInt := by
    rw [Word.toInt_add_of_bounds, hoff] <;> omega
  unfold sectionAt bytesOf
  dsimp only
  rw [if_neg, hoff]
  rw [gt_iff_lt, Int64.lt_iff_toInt_lt, hend]
  omega

/-- The last section is cut, if its end is an integer of 64 bits. -/
theorem bytesOf_last (hpos : 0 < size.toInt) (hle : i * size.toInt ≤ totalSize.toInt)
    (hlt : totalSize.toInt < i * size.toInt + size.toInt)
    (hbound : i * size.toInt + size.toInt < 2 ^ 63) :
    bytesOf (sectionAt totalSize size i) =
      ⟨i * size.toInt, totalSize.toInt - i * size.toInt⟩ := by
  have hnonneg : 0 ≤ i * size.toInt := mul_nonneg (Int.natCast_nonneg i) hpos.le
  have hoff : (Int64.ofNat i * size).toInt = i * size.toInt := toInt_off hpos hle
  have hend : (Int64.ofNat i * size + size).toInt = i * size.toInt + size.toInt := by
    rw [Word.toInt_add_of_bounds, hoff] <;> omega
  have hrest : (totalSize - Int64.ofNat i * size).toInt =
      totalSize.toInt - i * size.toInt := by
    rw [Word.toInt_sub_of_nonneg (by omega) (by omega), hoff]
  unfold sectionAt bytesOf
  dsimp only
  rw [if_pos, hoff, hrest]
  rw [gt_iff_lt, Int64.lt_iff_toInt_lt, hend]
  exact hlt

/-- If not, its end is taken for one before the file, and it stays as it is. -/
theorem bytesOf_wrapped (hpos : 0 < size.toInt) (hle : i * size.toInt ≤ totalSize.toInt)
    (hwrap : 2 ^ 63 ≤ i * size.toInt + size.toInt) :
    bytesOf (sectionAt totalSize size i) = ⟨i * size.toInt, size.toInt⟩ := by
  have hlt := totalSize.toInt_lt
  have hltsize := size.toInt_lt
  have hnonneg : 0 ≤ i * size.toInt := mul_nonneg (Int.natCast_nonneg i) hpos.le
  have hoff : (Int64.ofNat i * size).toInt = i * size.toInt := toInt_off hpos hle
  have hend : (Int64.ofNat i * size + size).toInt < 0 := by
    rw [Int64.toInt_add, hoff, Word.bmod_of_overflow hwrap (by omega)]
    omega
  unfold sectionAt bytesOf
  dsimp only
  rw [if_neg, hoff]
  rw [gt_iff_lt, Int64.lt_iff_toInt_lt]
  omega

/-- The sections before the last one follow one another. -/
theorem follow_full (hpos : 0 < size.toInt) :
    ∀ k : Nat, k * size.toInt ≤ totalSize.toInt →
      Follow 0 ((List.range k).map fun i => bytesOf (sectionAt totalSize size i))
        (k * size.toInt) := by
  intro k
  induction k with
  | zero =>
      intro _
      exact (Int.zero_mul _).symm
  | succ k ih =>
      intro hk
      push_cast at hk ⊢
      rw [add_one_mul] at hk ⊢
      rw [List.range_succ, List.map_append, List.map_singleton, bytesOf_full hpos hk]
      exact follow_append (ih (by omega)) ⟨rfl, rfl⟩

/-- All sections together, with what the last one has. -/
theorem follow_sections (hpos : 0 < size.toInt) {k : Nat} (hk : k * size.toInt ≤ totalSize.toInt)
    {len : Int} (hlast : bytesOf (sectionAt totalSize size k) = ⟨k * size.toInt, len⟩) :
    Follow 0 (((List.range (k + 1)).map (sectionAt totalSize size)).map bytesOf)
      (k * size.toInt + len) := by
  rw [List.map_map, List.range_succ, List.map_append, List.map_singleton, Function.comp_apply,
    hlast]
  exact follow_append (follow_full hpos k hk) ⟨rfl, rfl⟩

/-- When the rest of the file is not empty and the last section is cut, they are a partition. -/
theorem partition_iff (hpos : 0 < size.toInt) {k : Nat} (hk : k * size.toInt ≤ totalSize.toInt)
    (hlt : totalSize.toInt < k * size.toInt + size.toInt) :
    Partition 0 totalSize.toInt
        (((List.range (k + 1)).map (sectionAt totalSize size)).map bytesOf) ↔
      k * size.toInt ≠ totalSize.toInt ∧ k * size.toInt + size.toInt < 2 ^ 63 := by
  have hmem : bytesOf (sectionAt totalSize size k) ∈
      ((List.range (k + 1)).map (sectionAt totalSize size)).map bytesOf :=
    List.mem_map_of_mem (List.mem_map_of_mem List.self_mem_range_succ)
  by_cases hbound : k * size.toInt + size.toInt < 2 ^ 63
  · have hlast := bytesOf_last hpos hk hlt hbound
    rw [and_iff_left hbound]
    constructor
    · -- the last section has something in it
      intro hpart heq
      have hlen := interval_nonempty_iff.mp (hpart.nonempty _ hmem)
      rw [hlast, heq, Int.sub_self] at hlen
      exact absurd hlen (lt_irrefl 0)
    · intro hne
      have hfollow := follow_sections hpos hk hlast
      rw [add_sub_cancel] at hfollow
      refine partition_of_follow hfollow fun s hs => ?_
      rw [List.map_map, List.range_succ, List.map_append, List.map_singleton, List.mem_append,
        List.mem_singleton] at hs
      rcases hs with hs | rfl
      · rcases List.mem_map.mp hs with ⟨i, hi, rfl⟩
        have hi : (i : Int) + 1 ≤ k := by exact_mod_cast List.mem_range.mp hi
        have hle := mul_le_mul_of_nonneg_right hi hpos.le
        rw [add_one_mul] at hle
        rw [Function.comp_apply, bytesOf_full hpos (hle.trans hk)]
        exact hpos
      · rw [Function.comp_apply, hlast]
        show 0 < totalSize.toInt - k * size.toInt
        omega
  · -- the last section has bytes behind the end of the file
    refine iff_of_false (fun hpart => ?_) fun h => hbound h.2
    have hlast := bytesOf_wrapped hpos hk (not_lt.mp hbound)
    have hsub := subset_of_partition hpart hmem
    rw [hlast] at hsub
    have hbeyond : totalSize.toInt ∈ (Span.mk (k * size.toInt) size.toInt).interval := ⟨hk, hlt⟩
    exact absurd (hsub hbeyond).2 (lt_irrefl _)

end Sections

/-! ## When they are composed -/

section Composed

variable {totalSize desiredChunkCount : Int64} {total desired : Nat}

theorem sections_eq (htotal : totalSize.toInt = total)
    (hdesired : desiredChunkCount.toInt = desired) (hsize : 0 < total) (hcount : 1 ≤ desired) :
    sections totalSize desiredChunkCount =
      .ok ((List.range (total / chunkSize total desired + 1)).map
        (sectionAt totalSize (sectionSize totalSize desiredChunkCount))) := by
  have hlt := totalSize.toInt_lt
  have htoInt := toInt_sectionSize htotal hdesired hcount
  have hpos := chunkSize_pos total desired
  have hdiv : (totalSize / sectionSize totalSize desiredChunkCount).toInt =
      ((total / chunkSize total desired : Nat) : Int) := by
    rw [toInt_div_of_nonneg (by omega) (by omega), htoInt, htotal, Int.natCast_div]
  have hone : (1 : Int64).toInt = 1 := rfl
  have hmin : minChunkSize ≤ chunkSize total desired := by
    rw [chunkSize_eq]
    exact Nat.le_mul_of_pos_left _ (Nat.le_max_left _ _)
  have hle : total / chunkSize total desired ≤ total / 262144 :=
    Nat.div_le_div_left hmin (by decide)
  generalize total / chunkSize total desired = k at *
  -- there are not too many sections to count them
  have hindices : (totalSize / sectionSize totalSize desiredChunkCount + 1).toInt =
      (k : Int) + 1 := by
    rw [Word.toInt_add_of_bounds, hdiv, hone]
    · rw [hdiv, hone]; omega
    · rw [hdiv, hone]; omega
  have hne : totalSize ≠ 0 := by
    rintro rfl
    rw [Int64.toInt_zero] at htotal
    omega
  have hge : ¬ desiredChunkCount < 1 := by
    rw [Int64.lt_iff_toInt_lt, hone]
    omega
  unfold sections
  dsimp only
  rw [if_neg hne, if_neg hge, hindices]
  rfl

/-- As long as the last section is cut, the sections have the sizes of the chunks. -/
theorem sections_sizes {ss : List (Span Int64)} (htotal : totalSize.toInt = total)
    (hdesired : desiredChunkCount.toInt = desired) (hsize : 0 < total) (hcount : 1 ≤ desired)
    (hss : sections totalSize desiredChunkCount = .ok ss)
    (hbound : (total / chunkSize total desired + 1) * chunkSize total desired < 2 ^ 63) :
    ss.map (fun s => s.len.toInt.toNat) = chunkSizes total desired := by
  have htoInt := toInt_sectionSize htotal hdesired hcount
  have hpos := chunkSize_pos total desired
  rw [sections_eq htotal hdesired hsize hcount, Except.ok.injEq] at hss
  unfold chunkSizes
  dsimp only
  rw [← hss, List.map_map]
  generalize chunkSize total desired = size at *
  generalize sectionSize totalSize desiredChunkCount = sectionSize at *
  refine List.map_congr_left fun i hi => ?_
  rw [List.mem_range, Nat.lt_succ_iff] at hi
  have hoff : i * size ≤ total := (Nat.le_div_iff_mul_le hpos).mp hi
  have hend : i * size + size ≤ (total / size + 1) * size := by
    rw [← Nat.succ_mul]
    exact Nat.mul_le_mul_right size (Nat.succ_le_succ hi)
  have hcast : ((i * size : Nat) : Int) = i * sectionSize.toInt := by
    rw [htoInt, Int.natCast_mul]
  have hsize_pos : 0 < sectionSize.toInt := by omega
  rw [Function.comp_apply]
  by_cases hlast : i * size + size > total
  · have hlen : (sectionAt totalSize sectionSize i).len.toInt =
        totalSize.toInt - i * sectionSize.toInt := by
      rw [← bytesOf_len, bytesOf_last hsize_pos (by omega) (by omega) (by omega)]
    rw [if_pos hlast, hlen, ← hcast, htotal]
    omega
  · have hlen : (sectionAt totalSize sectionSize i).len.toInt = sectionSize.toInt := by
      rw [← bytesOf_len, bytesOf_full hsize_pos (by omega)]
    rw [if_neg hlast, hlen, htoInt, Int.toNat_natCast]

/-- There are as many sections as can be composed, or less, exactly if the whole units do not make
    as many parts. -/
theorem count_le_iff (total desired : Nat) :
    total / chunkSize total desired + 1 ≤ maxComposed ↔
      units total < maxComposed * unitsEach total desired := by
  have hpos : 0 < unitsEach total desired :=
    Nat.lt_of_lt_of_le Nat.zero_lt_one (Nat.le_max_left 1 _)
  have hdiv : total / chunkSize total desired = units total / unitsEach total desired := by
    rw [chunkSize_eq, units, Nat.div_div_eq_div_mul, Nat.mul_comm]
  rw [hdiv, Nat.succ_le_iff, Nat.div_lt_iff_lt_mul hpos]

/-- The sections are as they should be exactly if the file fits. They are uploaded side by side
    and put together by one call, which takes no empty section and 32 of them at most, so the
    number of bytes and the number of sections both have to come out right. -/
theorem composable_iff (totalSize desiredChunkCount : Int64) (hsize : 0 < totalSize.toInt)
    (hcount : 1 ≤ desiredChunkCount.toInt) :
    Composable totalSize desiredChunkCount ↔
      Fits totalSize.toInt.toNat desiredChunkCount.toInt.toNat := by
  obtain ⟨total, htotal⟩ := Int.eq_ofNat_of_zero_le hsize.le
  obtain ⟨desired, hdesired⟩ := Int.eq_ofNat_of_zero_le (le_trans Int.one_nonneg hcount)
  have htoInt := toInt_sectionSize htotal hdesired (by omega)
  have hpos := chunkSize_pos total desired
  have hsections := sections_eq htotal hdesired (by omega) (by omega)
  have hdiv := Nat.div_mul_le_self total (chunkSize total desired)
  have hmod := Nat.lt_div_mul_add hpos (a := total)
  have hcast : ((total / chunkSize total desired * chunkSize total desired : Nat) : Int) =
      ((total / chunkSize total desired : Nat) : Int) * (chunkSize total desired : Nat) :=
    Int.natCast_mul _ _
  have hsize_pos : 0 < (sectionSize totalSize desiredChunkCount).toInt := by omega
  have hpart := partition_iff hsize_pos (k := total / chunkSize total desired)
    (show _ ≤ totalSize.toInt by rw [htoInt, ← hcast]; omega)
    (by rw [htoInt, ← hcast]; omega)
  rw [htoInt, ← hcast] at hpart
  have hdvd : chunkSize total desired ∣ total ↔
      total / chunkSize total desired * chunkSize total desired = total :=
    Nat.dvd_iff_div_mul_eq _ _
  rw [htotal, hdesired, Int.toNat_natCast, Int.toNat_natCast]
  constructor
  · rintro ⟨ss, hss, hparts, hfew⟩
    rw [hsections, Except.ok.injEq] at hss
    rw [← hss, hpart] at hparts
    rw [← hss, List.length_map, List.length_range, count_le_iff, hdesired] at hfew
    rcases hparts with ⟨hne, hbound⟩
    refine ⟨?_, ?_, fun hle => hfew (by omega)⟩
    · rw [← chunkSize_eq, hdvd]
      omega
    · rw [← chunkSize_eq, Nat.succ_mul]
      omega
  · rintro ⟨hrest, hbound, hfew⟩
    rw [← chunkSize_eq, hdvd] at hrest
    rw [← chunkSize_eq, Nat.succ_mul] at hbound
    refine ⟨_, hsections, hpart.mpr ⟨by omega, by omega⟩, fun hle => ?_⟩
    rw [List.length_map, List.length_range, count_le_iff]
    exact hfew (by omega)

/-- A file of 1000 KiB in three parts. -/
theorem composable_iff_threeParts : Composable 1024000 3 ↔ Fits 1024000 3 :=
  composable_iff 1024000 3 (by decide) (by decide)

/-- A file of 512 KiB in two parts has a third section, which is empty. -/
theorem empty_section : ¬ ∀ totalSize desiredChunkCount : Int64, 0 < totalSize.toInt →
    1 ≤ desiredChunkCount.toInt → Composable totalSize desiredChunkCount := by
  intro hall
  rcases hall 524288 2 (by decide) (by decide) with ⟨ss, hss, hpart, -⟩
  have hthree : sections 524288 2 = .ok [⟨0, 262144⟩, ⟨262144, 262144⟩, ⟨524288, 0⟩] := by
    decide +kernel
  rw [hthree, Except.ok.injEq] at hss
  rw [← hss] at hpart
  have hlast := interval_nonempty_iff.mp (hpart.nonempty (bytesOf ⟨524288, 0⟩)
    (List.mem_map_of_mem (by decide)))
  exact absurd hlast (by decide)

end Composed

end UploadSections

end Content

end Nxpod
