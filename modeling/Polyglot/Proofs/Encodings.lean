import Polyglot.Files.Content

namespace Polyglot.Text

namespace Decoder

/-- What a decoder reads in a row of bytes. -/
def feed (d : Decoder) (bytes : List UInt8) : Decoder :=
  bytes.foldl (fun d byte => d.step byte.toNat) d

variable {d : Decoder} {byte : Nat} {rest : List UInt8}

theorem feed_append (a b : List UInt8) : d.feed (a ++ b) = (d.feed a).feed b := List.foldl_append ..

theorem feed_cons (small : byte < 256) :
    d.feed (UInt8.ofNat byte :: rest) = (d.step byte).feed rest := by
  have hbyte : (UInt8.ofNat byte).toNat = byte := by
    simp [UInt8.toNat_ofNat', Nat.mod_eq_of_lt small]
  rw [feed, List.foldl_cons, hbyte]
  rfl

theorem feed_first (between : d.needed = 0) (small : byte < 256) :
    d.feed (UInt8.ofNat byte :: rest) = (d.start byte).feed rest := by
  rw [feed_cons small, step, if_pos between]

theorem feed_last (owed : d.needed = 1) (low : d.low ≤ byte) (high : byte ≤ d.high)
    (small : byte < 256) : d.feed (UInt8.ofNat byte :: rest) =
      (d.emit (Char.ofNat (d.bits * 64 + (byte - 0x80)))).feed rest := by
  rw [feed_cons small, step, if_neg (by omega), if_pos ⟨low, high⟩, if_pos owed]

theorem feed_inner (owed : 1 < d.needed) (low : d.low ≤ byte) (high : byte ≤ d.high)
    (small : byte < 256) : d.feed (UInt8.ofNat byte :: rest) =
      feed { d with
        needed := d.needed - 1, low := 0x80, high := 0xbf
        bits := d.bits * 64 + (byte - 0x80) } rest := by
  rw [feed_cons small, step, if_neg (by omega), if_pos ⟨low, high⟩, if_neg (by omega)]

section
variable {v : Nat} (between : d.needed = 0)
include between

theorem feed_one (small : v ≤ 0x7f) : d.feed [UInt8.ofNat v] = d.emit (Char.ofNat v) := by
  rw [feed_first between (by omega), start, if_pos (by omega)]
  rfl

theorem feed_two (large : 0x7f < v) (small : v ≤ 0x7ff) :
    d.feed [UInt8.ofNat (v / 64 % 32 + 192), UInt8.ofNat (v % 64 + 128)] =
      d.emit (Char.ofNat v) := by
  have hv : (v / 64 % 32 + 192 - 0xc0) * 64 + (v % 64 + 128 - 0x80) = v := by omega
  rw [feed_first between (by omega), start, if_neg (by omega), if_neg (by omega), if_pos (by omega),
    feed_last rfl (by change 0x80 ≤ _; omega) (by change _ ≤ 0xbf; omega) (by omega), hv]
  rfl

theorem feed_three (large : 0x7ff < v) (small : v ≤ 0xffff) (scalar : v < 0xd800 ∨ 0xdfff < v) :
    d.feed [UInt8.ofNat (v / 4096 % 16 + 224), UInt8.ofNat (v / 64 % 64 + 128),
      UInt8.ofNat (v % 64 + 128)] = d.emit (Char.ofNat v) := by
  have hv : ((v / 4096 % 16 + 224 - 0xe0) * 64 + (v / 64 % 64 + 128 - 0x80)) * 64 +
      (v % 64 + 128 - 0x80) = v := by omega
  rw [feed_first between (by omega), start, if_neg (by omega), if_neg (by omega), if_neg (by omega),
    if_pos (by omega), feed_inner (by change 1 < 2; omega)
      (by change (if _ then _ else _) ≤ _; split <;> omega)
      (by change _ ≤ (if _ then _ else _); split <;> omega) (by omega),
    feed_last rfl (by change 0x80 ≤ _; omega) (by change _ ≤ 0xbf; omega) (by omega), hv]
  rfl

theorem feed_four (large : 0xffff < v) (small : v < 0x110000) :
    d.feed [UInt8.ofNat (v / 262144 % 8 + 240), UInt8.ofNat (v / 4096 % 64 + 128),
      UInt8.ofNat (v / 64 % 64 + 128), UInt8.ofNat (v % 64 + 128)] = d.emit (Char.ofNat v) := by
  have hv : (((v / 262144 % 8 + 240 - 0xf0) * 64 + (v / 4096 % 64 + 128 - 0x80)) * 64 +
      (v / 64 % 64 + 128 - 0x80)) * 64 + (v % 64 + 128 - 0x80) = v := by omega
  rw [feed_first between (by omega), start, if_neg (by omega), if_neg (by omega), if_neg (by omega),
    if_neg (by omega), if_pos (by omega), feed_inner (by change 1 < 3; omega)
      (by change (if _ then _ else _) ≤ _; split <;> omega)
      (by change _ ≤ (if _ then _ else _); split <;> omega) (by omega),
    feed_inner (by change 1 < 2; omega) (by change 0x80 ≤ _; omega) (by change _ ≤ 0xbf; omega)
      (by omega),
    feed_last rfl (by change 0x80 ≤ _; omega) (by change _ ≤ 0xbf; omega) (by omega), hv]
  rfl

theorem feed_encodeChar (c : Char) : d.feed (String.utf8EncodeChar c) = d.emit c := by
  have hvalid : c.val.toNat < 0xd800 ∨ 0xdfff < c.val.toNat ∧ c.val.toNat < 0x110000 := c.valid
  have hback : Char.ofNat c.val.toNat = c := Char.ofNat_toNat c
  simp only [String.utf8EncodeChar]
  split
  · rw [feed_one between ‹_›, hback]
  · split
    · rw [feed_two between (by omega) ‹_›, hback]
    · split
      · rw [feed_three between (by omega) ‹_› (by omega), hback]
      · rw [feed_four between (by omega) (by omega), hback]

end

theorem finish_feed (between : d.needed = 0) (chars : List Char) :
    (d.feed (chars.flatMap String.utf8EncodeChar)).finish = d.out.reverse ++ chars := by
  induction chars generalizing d with
  | nil => simp [feed, finish, between]
  | cons c rest ih =>
    have hemit : (d.emit c).needed = 0 := rfl
    rw [List.flatMap_cons, feed_append, feed_encodeChar between, ih hemit]
    simp [emit]

end Decoder

theorem foldlM_loop {α : Type} (step : α → UInt8 → α) (bytes : ByteArray) (left next : Nat)
    (reaches : next + left = bytes.size) (state : α) :
    ByteArray.foldlM.loop (m := Id) step bytes bytes.size (Nat.le_refl _) left next state =
      (bytes.data.toList.drop next).foldl step state := by
  have hlength : bytes.data.toList.length = bytes.size := rfl
  induction left generalizing next state with
  | zero =>
    rw [ByteArray.foldlM.loop, dif_neg (by omega), List.drop_of_length_le (by omega)]
    rfl
  | succ left ih =>
    rw [ByteArray.foldlM.loop, dif_pos (by omega), List.drop_eq_getElem_cons (by omega), List.foldl_cons]
    exact ih (next + 1) (by omega) _

theorem foldl_toByteArray {α : Type} (step : α → UInt8 → α) (init : α) (bytes : List UInt8) :
    bytes.toByteArray.foldl step init = bytes.foldl step init := by
  have hdata : bytes.toByteArray.data.toList = bytes := by simp
  have hloop := foldlM_loop step bytes.toByteArray bytes.toByteArray.size 0 (Nat.zero_add _) init
  rw [List.drop_zero, hdata] at hloop
  rw [← hloop, ByteArray.foldl, ByteArray.foldlM]
  simp
  rfl

theorem decode_toUTF8 (text : String) : decode text.toUTF8 = text.toList := by
  have hbytes : text.toUTF8 = (text.toList.flatMap String.utf8EncodeChar).toByteArray := by
    conv => lhs; rw [← String.ofList_toList (s := text)]
    exact String.toByteArray_ofList
  rw [decode, hbytes, foldl_toByteArray]
  exact Decoder.finish_feed rfl text.toList

theorem unifyGo_of_none {chars : List Char} (h : '\r' ∉ chars) (out : List Char) :
    unifyGo chars out = out.reverse ++ chars := by
  induction chars generalizing out with
  | nil => simp [unifyGo]
  | cons c rest ih =>
    rw [List.mem_cons, not_or] at h
    rw [unifyGo, if_neg (Ne.symm h.1), ih h.2]
    · simp
    · rintro rest rfl
      exact absurd rfl h.1

theorem not_mem_unifyGo (chars : List Char) {out : List Char} (h : '\r' ∉ out) :
    '\r' ∉ unifyGo chars out := by
  fun_induction unifyGo chars out with
  | case1 out => simpa using h
  | case2 rest out ih => exact ih (by simpa using h)
  | case3 c rest out _ ih =>
    refine ih ?_
    rw [List.mem_cons, not_or]
    refine ⟨?_, h⟩
    split
    · decide
    · exact Ne.symm ‹_›

end Polyglot.Text

namespace Polyglot.Files

open Polyglot.Text

theorem not_mem_textOf (content : ByteArray) : '\r' ∉ textOf content :=
  not_mem_unifyGo _ List.not_mem_nil

/-- What has no carriage returns is read as it is written. -/
theorem textOf_toUTF8 {chars : List Char} (h : '\r' ∉ chars) :
    textOf (String.ofList chars).toUTF8 = chars := by
  rw [textOf, decode_toUTF8, String.toList_ofList]
  exact unifyGo_of_none h []

end Polyglot.Files
