import Mathlib.Data.List.TakeWhile
import Replay.Text.Blank
import Replay.Text.Utf8

/-!
Text that comes from outside. Its bytes are read as UTF-8, where a text is read back as it is, and
blanks around it are cut off.
-/
namespace Replay.Text

def utf8 (s : String) : List UInt8 := s.toUTF8.data.toList

theorem utf8_eq (s : String) : utf8 s = s.toList.flatMap String.utf8EncodeChar := by
  have bytes : s.toUTF8 = s.toList.utf8Encode := by
    rw [String.toUTF8_eq_toByteArray, ← String.toByteArray_ofList, String.ofList_toList]
  unfold utf8
  rw [bytes]
  unfold List.utf8Encode
  rw [List.data_toByteArray]

theorem toNat_byte {n : Nat} (byte : n < 0x100) : (UInt8.ofNat n).toNat = n :=
  UInt8.toNat_ofNat_of_lt' byte

namespace Lead

variable {n : Nat}

theorem ofByte_one (high : n < 0x80) : ofByte (.ofNat n) = some ⟨0, n, 0x80, 0xbf⟩ := by
  unfold ofByte
  rw [toNat_byte (by omega)]
  exact if_pos high

theorem ofByte_two (low : 0xc2 ≤ n) (high : n ≤ 0xdf) :
    ofByte (.ofNat n) = some ⟨1, n - 0xc0, 0x80, 0xbf⟩ := by
  unfold ofByte
  rw [toNat_byte (by omega)]
  dsimp only
  rw [if_neg (by omega), if_pos ⟨low, high⟩]

/-- The byte behind the first one of three is narrowed where the first one is at an end. -/
theorem ofByte_three (low : 0xe0 ≤ n) (high : n ≤ 0xef) : ∃ least most : UInt8,
    ofByte (.ofNat n) = some ⟨2, n - 0xe0, least, most⟩ ∧
    least.toNat = (if n = 0xe0 then 0xa0 else 0x80) ∧
    most.toNat = if n = 0xed then 0x9f else 0xbf := by
  unfold ofByte
  rw [toNat_byte (by omega)]
  dsimp only
  rw [if_neg (by omega), if_neg (by omega)]
  by_cases first : n = 0xe0
  · subst first
    exact ⟨_, _, rfl, rfl, rfl⟩
  · by_cases last : n = 0xed
    · subst last
      exact ⟨_, _, rfl, rfl, rfl⟩
    · rw [if_neg first, if_neg last, if_pos ⟨by omega, high⟩]
      exact ⟨_, _, rfl, by rw [if_neg first]; rfl, by rw [if_neg last]; rfl⟩

theorem ofByte_four (low : 0xf0 ≤ n) (high : n ≤ 0xf4) : ∃ least most : UInt8,
    ofByte (.ofNat n) = some ⟨3, n - 0xf0, least, most⟩ ∧
    least.toNat = (if n = 0xf0 then 0x90 else 0x80) ∧
    most.toNat = if n = 0xf4 then 0x8f else 0xbf := by
  unfold ofByte
  rw [toNat_byte (by omega)]
  dsimp only
  rw [if_neg (by omega), if_neg (by omega), if_neg (by omega), if_neg (by omega),
    if_neg (by omega)]
  by_cases first : n = 0xf0
  · subst first
    exact ⟨_, _, rfl, rfl, rfl⟩
  · by_cases last : n = 0xf4
    · subst last
      exact ⟨_, _, rfl, rfl, rfl⟩
    · rw [if_neg first, if_neg last, if_pos ⟨by omega, by omega⟩]
      exact ⟨_, _, rfl, by rw [if_neg first]; rfl, by rw [if_neg last]; rfl⟩

end Lead

namespace Utf8Reading

variable {pieces : List (Option Char)} {least most : UInt8} {n k v : Nat}

theorem within (low : least.toNat ≤ n) (high : n ≤ most.toNat) :
    least ≤ .ofNat n ∧ .ofNat n ≤ most := by
  have byte : n < 0x100 := high.trans_lt (UInt8.toNat_lt most)
  rw [UInt8.le_iff_toNat_le, UInt8.le_iff_toNat_le, toNat_byte byte]
  exact ⟨low, high⟩

theorem feed_more (low : least.toNat ≤ n) (high : n ≤ most.toNat) :
    feed ⟨some ⟨k + 2, v, least, most⟩, pieces⟩ (.ofNat n) =
      ⟨some ⟨k + 1, v * 64 + (n - 0x80), 0x80, 0xbf⟩, pieces⟩ := by
  unfold feed
  dsimp only
  rw [if_pos (within low high), if_neg (by omega),
    toNat_byte (high.trans_lt (UInt8.toNat_lt most))]
  rfl

theorem feed_last (low : least.toNat ≤ n) (high : n ≤ most.toNat) :
    feed ⟨some ⟨1, v, least, most⟩, pieces⟩ (.ofNat n) =
      ⟨none, some (Char.ofNat (v * 64 + (n - 0x80))) :: pieces⟩ := by
  unfold feed
  dsimp only
  rw [if_pos (within low high), if_pos (by omega), toNat_byte (high.trans_lt (UInt8.toNat_lt most))]
  rfl

theorem feed_bits : feed ⟨some ⟨k + 2, v, 0x80, 0xbf⟩, pieces⟩ (.ofNat (n % 64 + 128)) =
    ⟨some ⟨k + 1, v * 64 + n % 64, 0x80, 0xbf⟩, pieces⟩ := by
  have low : (0x80 : UInt8).toNat ≤ n % 64 + 128 := Nat.le_add_left _ _
  have high : n % 64 + 128 ≤ (0xbf : UInt8).toNat := by
    have most : (0xbf : UInt8).toNat = 191 := rfl
    omega
  rw [feed_more low high, Nat.add_sub_cancel]

theorem feed_last_bits : feed ⟨some ⟨1, v, 0x80, 0xbf⟩, pieces⟩ (.ofNat (n % 64 + 128)) =
    ⟨none, some (Char.ofNat (v * 64 + n % 64)) :: pieces⟩ := by
  have low : (0x80 : UInt8).toNat ≤ n % 64 + 128 := Nat.le_add_left _ _
  have high : n % 64 + 128 ≤ (0xbf : UInt8).toNat := by
    have most : (0xbf : UInt8).toNat = 191 := rfl
    omega
  rw [feed_last low high, Nat.add_sub_cancel]

theorem feed_idle {b : UInt8} {bits : Nat}
    (lead : Lead.ofByte b = some ⟨k + 1, bits, least, most⟩) :
    feed ⟨none, pieces⟩ b = ⟨some ⟨k + 1, bits, least, most⟩, pieces⟩ := by
  unfold feed start
  dsimp only
  rw [lead]

theorem feed_char (c : Char) (pieces : List (Option Char)) :
    (String.utf8EncodeChar c).foldl feed ⟨none, pieces⟩ = ⟨none, some c :: pieces⟩ := by
  have valid : c.toNat < 0xd800 ∨ 0xdfff < c.toNat ∧ c.toNat < 0x110000 := c.valid
  have same : Char.ofNat c.toNat = c := c.ofNat_toNat
  have val : c.val.toNat = c.toNat := rfl
  unfold String.utf8EncodeChar
  rw [val]
  generalize c.toNat = n at valid same
  subst same
  dsimp only
  split
  · unfold feed start
    rw [List.foldl_cons, List.foldl_nil, Lead.ofByte_one (by omega)]
    rfl
  · split
    · have lead := Lead.ofByte_two (n := n / 64 % 32 + 192) (by omega) (by omega)
      rw [List.foldl_cons, List.foldl_cons, List.foldl_nil, feed_idle lead, feed_last_bits]
      have value : (n / 64 % 32 + 192 - 0xc0) * 64 + n % 64 = n := by omega
      rw [value]
    · split
      · obtain ⟨least, most, lead, low, high⟩ :=
          Lead.ofByte_three (n := n / 4096 % 16 + 224) (by omega) (by omega)
        rw [List.foldl_cons, List.foldl_cons, List.foldl_cons, List.foldl_nil, feed_idle lead,
          feed_more (by rw [low]; split <;> omega) (by rw [high]; split <;> omega), feed_last_bits]
        have value : ((n / 4096 % 16 + 224 - 0xe0) * 64 + (n / 64 % 64 + 128 - 0x80)) * 64 +
            n % 64 = n := by omega
        rw [value]
      · obtain ⟨least, most, lead, low, high⟩ :=
          Lead.ofByte_four (n := n / 262144 % 8 + 240) (by omega) (by omega)
        rw [List.foldl_cons, List.foldl_cons, List.foldl_cons, List.foldl_cons, List.foldl_nil,
          feed_idle lead, feed_more (by rw [low]; split <;> omega) (by rw [high]; split <;> omega),
          feed_bits, feed_last_bits]
        have value : (((n / 262144 % 8 + 240 - 0xf0) * 64 + (n / 4096 % 64 + 128 - 0x80)) * 64 +
            n / 64 % 64) * 64 + n % 64 = n := by omega
        rw [value]

theorem feed_chars (cs : List Char) : ∀ pieces : List (Option Char),
    (cs.flatMap String.utf8EncodeChar).foldl feed ⟨none, pieces⟩ =
      ⟨none, (cs.map some).reverse ++ pieces⟩ := by
  induction cs with
  | nil => exact fun _ => rfl
  | cons c cs ih =>
    intro pieces
    rw [List.flatMap_cons, List.foldl_append, feed_char, ih, List.map_cons, List.reverse_cons,
      List.append_assoc, List.singleton_append]

end Utf8Reading

theorem utf8Pieces_utf8 (s : String) : utf8Pieces (utf8 s) = s.toList.map some := by
  unfold utf8Pieces
  have read := Utf8Reading.feed_chars s.toList []
  rw [← utf8_eq, List.append_nil] at read
  rw [read]
  exact List.reverse_reverse _

/-- A text is read back from its bytes, whatever is put in the place of what cannot be read. -/
theorem utf8Lossy_utf8 (s : String) : utf8Lossy (utf8 s) = s := by
  unfold utf8Lossy
  rw [utf8Pieces_utf8, List.map_map]
  have same : s.toList.map ((·.getD '\ufffd') ∘ some) = s.toList := List.map_id' s.toList
  rw [same, String.ofList_toList]

/-! Blanks -/

structure Trims (s t : String) : Prop where
  cut : ∃ front back, s.toList = front ++ t.toList ++ back ∧ (∀ c ∈ front, isBlank c = true) ∧
    ∀ c ∈ back, isBlank c = true
  head : ∀ c ∈ t.toList.head?, isBlank c = false
  last : ∀ c ∈ t.toList.getLast?, isBlank c = false

theorem dropWhile_of_head {cs : List Char} (head : ∀ c ∈ cs.head?, isBlank c = false) :
    cs.dropWhile isBlank = cs := by
  cases cs with
  | nil => rfl
  | cons c cs => exact List.dropWhile_cons_of_neg (by simp [head c rfl])

theorem head_dropWhile (cs : List Char) :
    ∀ c ∈ (cs.dropWhile isBlank).head?, isBlank c = false := by
  intro c mem
  have found := List.head?_dropWhile_not isBlank cs
  rw [mem] at found
  simpa using found

theorem trimList_eq {front cs back : List Char} (blank : ∀ c ∈ front, isBlank c = true)
    (blank' : ∀ c ∈ back, isBlank c = true) (head : ∀ c ∈ cs.head?, isBlank c = false)
    (last : ∀ c ∈ cs.getLast?, isBlank c = false) : trimList (front ++ cs ++ back) = cs := by
  unfold trimList
  rw [List.append_assoc, List.dropWhile_append_of_pos blank]
  cases cs with
  | nil =>
    rw [List.nil_append, List.dropWhile_eq_nil_iff.mpr blank']
    rfl
  | cons c cs =>
    have stays : (c :: cs ++ back).dropWhile isBlank = c :: cs ++ back := dropWhile_of_head head
    have stays' : (c :: cs).reverse.dropWhile isBlank = (c :: cs).reverse :=
      dropWhile_of_head (List.head?_reverse ▸ last)
    rw [stays, List.reverse_append, List.dropWhile_append_of_pos fun c mem =>
      blank' c (List.mem_reverse.mp mem), stays', List.reverse_reverse]

theorem trims_trim (s : String) : Trims s (trim s) := by
  let front := s.toList.takeWhile isBlank
  let rest := s.toList.dropWhile isBlank
  let back := (rest.reverse.takeWhile isBlank).reverse
  have kept : (trim s).toList = (rest.reverse.dropWhile isBlank).reverse := String.toList_ofList
  have whole : rest = (trim s).toList ++ back := by
    rw [kept, ← List.reverse_append, List.takeWhile_append_dropWhile, List.reverse_reverse]
  refine ⟨⟨front, back, ?_, fun c => List.mem_takeWhile_imp, fun c mem =>
    List.mem_takeWhile_imp (List.mem_reverse.mp mem)⟩, fun c mem => ?_, fun c mem => ?_⟩
  · rw [List.append_assoc, ← whole, List.takeWhile_append_dropWhile]
  · refine head_dropWhile s.toList c ?_
    have front : s.toList.dropWhile isBlank = (trim s).toList ++ back := whole
    rw [front, List.head?_append, mem]
    rfl
  · rw [kept, List.getLast?_reverse] at mem
    exact head_dropWhile _ c mem

theorem trims_iff {s t : String} : Trims s t ↔ trim s = t := by
  constructor
  · rintro ⟨⟨front, back, whole, blank, blank'⟩, head, last⟩
    unfold trim
    rw [whole, trimList_eq blank blank' head last, String.ofList_toList]
  · rintro rfl
    exact trims_trim s

end Replay.Text
