import CatalogEntities.DotEnv
import Mathlib.Data.List.Basic

/-!
# `Proofs/DotEnv/Lines.lean` — the lines of a text

A file of variables is cut into lines byte by byte, and each line is decoded on its own. Where the
file is a text, this is the text cut at its line feeds (`loadText_eq`): no other character is
encoded with the byte of a line feed, and only one is encoded as the mark in front is.

Lines are then put together until nothing is open. A piece of a text that ends with a line and
leaves nothing open is put together by itself, and what follows it as if it were not there
(`logicalLines_append`).

This is what allows statements about files to be statements about lists of characters. A file that
is no text has a fault, and there is nothing else to say of it.
-/

set_option autoImplicit false

namespace CatalogEntities.DotEnv

/-! ## Cutting -/

section

variable {α : Type} [DecidableEq α] {x : α}

/-- What has no line feed joins the first line of the rest. -/
theorem cutLines_append_of_not_mem {front : List α} (hsome : front ≠ []) (h : x ∉ front)
    (rest : List α) :
    cutLines x (front ++ rest) =
      match cutLines x rest with
      | [] => [front]
      | line :: lines => (front ++ line) :: lines := by
  induction front with
  | nil => exact absurd rfl hsome
  | cons y front ih =>
    obtain ⟨hy, hfront⟩ := not_or.1 (List.mem_cons.not.1 h)
    rw [List.cons_append, cutLines, if_neg (Ne.symm hy)]
    by_cases hlast : front = []
    · subst hlast
      rfl
    · rw [ih hlast hfront]
      cases cutLines x rest <;> rfl

/-- A line with its line feed is cut off. -/
theorem cutLines_line {front : List α} (h : x ∉ front) (rest : List α) :
    cutLines x (front ++ x :: rest) = (front ++ [x]) :: cutLines x rest := by
  have hcut : cutLines x (x :: rest) = [x] :: cutLines x rest := by rw [cutLines, if_pos rfl]
  cases front with
  | nil => exact hcut
  | cons y front => rw [cutLines_append_of_not_mem (List.cons_ne_nil y front) h, hcut]

theorem cutLines_last {line : List α} (hsome : line ≠ []) (h : x ∉ line) :
    cutLines x line = [line] := by
  have hcut := cutLines_append_of_not_mem hsome h []
  rwa [List.append_nil] at hcut

/-- A text that ends with a line feed is cut by itself. -/
theorem cutLines_append (text rest : List α) (h : ∀ y ∈ text.getLast?, y = x) :
    cutLines x (text ++ rest) = cutLines x text ++ cutLines x rest := by
  -- by two characters, because the condition is about the last of the text
  induction text with
  | nil => rfl
  | cons y text ih =>
    cases text with
    | nil =>
      obtain rfl := h y rfl
      simp [cutLines]
    | cons z text =>
      have hrest := ih fun w hw => h w (by rwa [List.getLast?_cons_cons])
      rw [List.cons_append, cutLines, cutLines, hrest]
      split
      · rfl
      · -- there is a line already, which the character joins
        have hsome : cutLines x (z :: text) ≠ [] := by
          rw [cutLines]
          split
          · simp
          · split <;> simp
        cases hlines : cutLines x (z :: text) with
        | nil => exact absurd hlines hsome
        | cons line lines => rfl

end

/-! ## Bytes and characters -/

open String (utf8EncodeChar)

theorem toList_eq_data_toList (bytes : ByteArray) : bytes.toList = bytes.data.toList := by
  have hloop : ∀ (i : Nat) (r : List UInt8),
      ByteArray.toList.loop bytes i r = r.reverse ++ bytes.data.toList.drop i := by
    intro i r
    fun_induction ByteArray.toList.loop bytes i r with
    | case1 i r h ih =>
      have hi : i < bytes.data.toList.length := by simpa using h
      rw [ih, List.drop_eq_getElem_cons hi]
      simp [ByteArray.get!, h]
    | case2 i r h =>
      rw [List.drop_eq_nil_of_le (by simpa using Nat.le_of_not_lt h)]
      simp
  rw [ByteArray.toList, hloop]
  rfl

/-- The bytes of a text. -/
theorem toList_toByteArray (text : String) :
    text.toByteArray.toList = text.toList.flatMap utf8EncodeChar := by
  rw [← String.utf8Encode_toList, toList_eq_data_toList, List.utf8Encode,
    List.toList_data_toByteArray]

/-- No byte but that of a line feed belongs to a line feed. -/
theorem lineFeed_not_mem {c : Char} (h : c ≠ '\n') : 10 ∉ utf8EncodeChar c := by
  intro hmem
  have hbyte : ∀ n, (10 : UInt8) = UInt8.ofNat n → n % 256 = 10 := by
    intro n hn
    rw [← UInt8.toNat_ofNat', ← hn]
    rfl
  simp only [utf8EncodeChar] at hmem
  -- one byte is the code point itself, and of several bytes each is above 127
  split at hmem
  · rename_i hone
    have hcode := hbyte _ (List.mem_singleton.1 hmem)
    refine h (Char.ext (UInt32.toNat_inj.1 ?_))
    show c.val.toNat = 10
    omega
  · split at hmem
    · simp only [List.mem_cons, List.not_mem_nil, or_false] at hmem
      rcases hmem with hmem | hmem <;> have hcode := hbyte _ hmem <;> omega
    · split at hmem
      · simp only [List.mem_cons, List.not_mem_nil, or_false] at hmem
        rcases hmem with hmem | hmem | hmem <;> have hcode := hbyte _ hmem <;> omega
      · simp only [List.mem_cons, List.not_mem_nil, or_false] at hmem
        rcases hmem with hmem | hmem | hmem | hmem <;> have hcode := hbyte _ hmem <;> omega

theorem utf8EncodeChar_lineFeed : utf8EncodeChar '\n' = [10] := by decide +kernel

/-- Lines are cut alike in a text and in its bytes. -/
theorem cutLines_utf8 (cs : List Char) :
    cutLines 10 (cs.flatMap utf8EncodeChar) =
      (cutLines '\n' cs).map (·.flatMap utf8EncodeChar) := by
  induction cs with
  | nil => rfl
  | cons c cs ih =>
    rw [List.flatMap_cons]
    by_cases hc : c = '\n'
    · subst hc
      rw [utf8EncodeChar_lineFeed, List.singleton_append, cutLines, if_pos rfl, ih, cutLines,
        if_pos rfl, List.map_cons, List.flatMap_singleton, utf8EncodeChar_lineFeed]
    · rw [cutLines_append_of_not_mem String.utf8EncodeChar_ne_nil (lineFeed_not_mem hc), ih,
        cutLines, if_neg hc]
      cases cutLines '\n' cs with
      | nil => simp
      | cons line lines => simp

theorem fromUTF8?_flatMap (line : List Char) :
    String.fromUTF8? ⟨(line.flatMap utf8EncodeChar).toArray⟩ = some (String.ofList line) := by
  have hbytes : (⟨(line.flatMap utf8EncodeChar).toArray⟩ : ByteArray) = line.utf8Encode := by
    refine ByteArray.ext (Array.toList_inj.1 ?_)
    rw [List.utf8Encode, List.toList_data_toByteArray]
  rw [hbytes, String.fromUTF8?, dif_pos ByteArray.isValidUTF8_utf8Encode]
  refine congrArg some (String.toByteArray_inj.1 ?_)
  rw [String.toByteArray_ofList]
  rfl

/-! ## The mark in front -/

/-- The character that a mark in front of a text is. -/
def markChar : Char := '\uFEFF'

/-- The text of a file without the mark in front: the part of it that is read. -/
def body (text : String) : List Char :=
  match text.toList with
  | c :: rest => if c = markChar then rest else c :: rest
  | [] => []

theorem utf8EncodeChar_mark : utf8EncodeChar markChar = byteOrderMark := by decide +kernel

/-- No other character begins with the bytes of the mark. -/
theorem eq_mark_of_isPrefixOf {c : Char} {rest : List Char}
    (h : byteOrderMark.isPrefixOf ((c :: rest).flatMap utf8EncodeChar) = true) : c = markChar := by
  obtain ⟨bytes, hbytes⟩ := List.isPrefixOf_iff_prefix.1 h
  have hencode : [markChar].utf8Encode ++ bytes.toByteArray = (c :: rest).utf8Encode := by
    refine ByteArray.ext (Array.toList_inj.1 ?_)
    rw [ByteArray.data_append, Array.toList_append, List.utf8Encode, List.utf8Encode,
      List.toList_data_toByteArray, List.toList_data_toByteArray, List.toList_data_toByteArray,
      List.flatMap_singleton, utf8EncodeChar_mark, hbytes]
  have hprefix := List.isPrefix_of_utf8Encode_append_eq_utf8Encode _ hencode
  exact (List.cons_prefix_cons.1 hprefix).1.symm

/-- **The mark is taken off the bytes of a text exactly if the text begins with its character.** -/
theorem withoutMark_utf8 (text : String) :
    withoutMark text.toByteArray.toList = (body text).flatMap utf8EncodeChar := by
  rw [toList_toByteArray, withoutMark, body]
  cases text.toList with
  | nil => rfl
  | cons c rest =>
    by_cases hc : c = markChar
    · subst hc
      have hbytes : (markChar :: rest).flatMap utf8EncodeChar =
          byteOrderMark ++ rest.flatMap utf8EncodeChar := by
        rw [List.flatMap_cons, utf8EncodeChar_mark]
      rw [hbytes, if_pos (List.isPrefixOf_iff_prefix.2 (List.prefix_append _ _))]
      simp only [if_true]
      rfl
    · rw [if_neg fun h => hc (eq_mark_of_isPrefixOf h)]
      simp only [if_neg hc]

/-- **A text is read line by line**, as it is cut at its line feeds. -/
theorem loadText_eq (vars : Variables) (text : String) :
    loadText vars text = runLines vars ((cutLines '\n' (body text)).map some) := by
  rw [loadText, load, withoutMark_utf8, cutLines_utf8, List.map_map]
  refine congrArg (runLines vars) (List.map_congr_left fun line _ => ?_)
  rw [Function.comp, fromUTF8?_flatMap, Option.map_some, String.toList_ofList]

/-! ## Lines put together -/

/-- **The lines of a text**, those put together that belong together. -/
def logicalLines (cs : List Char) : List (Except Fault (List Char)) :=
  joinLines .complete [] ((cutLines '\n' cs).map some)

/-- A line that can be read. Whether it can does not depend on the variables there are
(`exists_readLine_of_ok`). -/
def IsReadable (line : List Char) : Prop := ∃ a, readLine (fun _ => none) line = .ok a

instance (line : List Char) : Decidable (IsReadable line) :=
  match h : readLine (fun _ => none) line with
  | .ok a => .isTrue ⟨a, h⟩
  | .error _ => .isFalse fun ⟨_, ha⟩ => absurd (h.symm.trans ha) (by simp)

/-- **The lines of a well-formed text**: they are put together without a fault, and each of them can
be read. -/
structure HasLines (cs : List Char) (lines : List (List Char)) : Prop where
  joined : logicalLines cs = lines.map .ok
  readable : ∀ line ∈ lines, IsReadable line

instance (cs : List Char) (lines : List (List Char)) : Decidable (HasLines cs lines) :=
  decidable_of_iff (logicalLines cs = lines.map .ok ∧ ∀ line ∈ lines, IsReadable line)
    ⟨fun h => ⟨h.1, h.2⟩, fun h => ⟨h.joined, h.readable⟩⟩

/-- Lines that are put together without a fault leave nothing open for those that follow. -/
theorem joinLines_append {s : LineState} {before : List Char} (hs : s = .complete → before = [])
    {front : List (Option (List Char))} {lines : List (List Char)}
    (h : joinLines s before front = lines.map .ok) (rest : List (Option (List Char))) :
    joinLines s before (front ++ rest) =
      joinLines s before front ++ joinLines .complete [] rest := by
  -- on the lines in front; `before` is what an open line has gathered, and nothing if none is open
  induction front generalizing s before lines with
  | nil =>
    rw [joinLines] at h ⊢
    split at h
    · rename_i hcomplete
      obtain rfl := hs hcomplete
      rw [if_pos hcomplete, hcomplete]
      rfl
    · cases lines with
      | nil => exact absurd h (by simp)
      | cons line lines => exact absurd (List.cons.inj h).1 (by simp)
  | cons line front ih =>
    cases line with
    | none =>
      rw [joinLines] at h
      cases lines with
      | nil => exact absurd h (by simp)
      | cons line lines => exact absurd (List.cons.inj h).1 (by simp)
    | some line =>
      -- what a line begins: nothing, or lines that still belong to it
      have hfresh : ∀ (first : Except Fault (List Char)),
          first :: joinLines .complete [] front = lines.map .ok →
          first :: joinLines .complete [] (front ++ rest) =
            first :: joinLines .complete [] front ++ joinLines .complete [] rest := by
        intro first hfirst
        cases lines with
        | nil => exact absurd hfirst (by simp)
        | cons line lines =>
          rw [ih (fun _ => rfl) (List.cons.inj hfirst).2]
          rfl
      rw [List.cons_append, joinLines, joinLines]
      rw [joinLines] at h
      split at h
      · rename_i hcomment
        rw [if_pos hcomment, if_pos hcomment]
        exact hfresh _ h
      · rename_i hcomment
        rw [if_neg hcomment, if_neg hcomment]
        split at h
        · exact hfresh _ h
        · exact hfresh _ h
        · rename_i hopen _
          exact ih (fun hcomplete => absurd hcomplete hopen) h

/-- **A piece of a text that ends with a line is put together by itself.** -/
theorem HasLines.logicalLines_append {text : List Char} {lines : List (List Char)}
    (h : HasLines text lines) (hend : ∀ c ∈ text.getLast?, c = '\n') (rest : List Char) :
    logicalLines (text ++ rest) = logicalLines text ++ logicalLines rest := by
  rw [logicalLines, cutLines_append text rest hend, List.map_append]
  exact joinLines_append (fun _ => rfl) h.joined _

end CatalogEntities.DotEnv
