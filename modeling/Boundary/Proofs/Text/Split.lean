import Boundary.Text.Split

/-!
# Parts of a text that has been put together

* `split_separated`: a separator between two texts separates their parts.
* `split_intercalate`: parts without separators are found again.
* `notMem_of_mem_split`: a part has no separators.
* `exists_part_of_mem`: nothing but separators gets lost.
* `mem_intercalate`: what a text that is put together contains.
* `trimStart`: a text without the blanks that it starts with.
-/

namespace Boundary.Text

variable {separator : Char}

theorem splitChars_of_notMem {cs : List Char} (h : separator ∉ cs) :
    splitChars separator cs = [cs] := by
  induction cs with
  | nil => rfl
  | cons c cs ih =>
    rw [List.mem_cons, not_or] at h
    simp [splitChars, Ne.symm h.1, ih h.2]

theorem splitChars_append_cons (front back : List Char) :
    splitChars separator (front ++ separator :: back) =
      splitChars separator front ++ splitChars separator back := by
  induction front with
  | nil => simp [splitChars]
  | cons c front ih =>
    by_cases hc : c = separator
    · simp [splitChars, hc, ih]
    · obtain ⟨part, parts, hparts⟩ :=
        List.exists_cons_of_ne_nil (splitChars_ne_nil separator front)
      simp [splitChars, hc, ih, hparts]

/-- Parts without separators are found again. -/
theorem splitChars_intercalate {parts : List (List Char)} (hne : parts ≠ [])
    (h : ∀ part ∈ parts, separator ∉ part) :
    splitChars separator ([separator].intercalate parts) = parts := by
  induction parts with
  | nil => exact absurd rfl hne
  | cons part rest ih =>
    rw [List.forall_mem_cons] at h
    cases rest with
    | nil => rw [List.intercalate_singleton, splitChars_of_notMem h.1]
    | cons next rest =>
      rw [List.intercalate_cons_cons, List.append_assoc, List.singleton_append,
        splitChars_append_cons, splitChars_of_notMem h.1, ih (by simp) h.2]
      rfl

theorem split_ofList (cs : List Char) :
    split separator (String.ofList cs) = (splitChars separator cs).map String.ofList := by
  rw [split, String.toList_ofList]

theorem split_of_notMem {s : String} (h : separator ∉ s.toList) : split separator s = [s] := by
  simp [split, splitChars_of_notMem h]

theorem split_separated {between : String} (h : between.toList = [separator]) (a b : String) :
    split separator (a ++ between ++ b) = split separator a ++ split separator b := by
  have hchars : (a ++ between ++ b).toList = a.toList ++ separator :: b.toList := by simp [h]
  simp only [split, hchars, splitChars_append_cons, List.map_append]

/-- A text without anything in it is one part. -/
theorem split_empty (separator : Char) : split separator "" = [""] :=
  split_of_notMem (by simp)

/-- A line feed between two texts separates their lines. -/
theorem split_feed (a b : String) : split '\n' (a ++ "\n" ++ b) = split '\n' a ++ split '\n' b :=
  split_separated rfl a b

theorem split_ne_nil (separator : Char) (s : String) : split separator s ≠ [] := by
  simp [split, splitChars_ne_nil]

/-- Parts without separators are found again. -/
theorem split_intercalate {between : String} (hbetween : between.toList = [separator])
    {parts : List String} (hne : parts ≠ []) (h : ∀ s ∈ parts, separator ∉ s.toList) :
    split separator (between.intercalate parts) = parts := by
  induction parts with
  | nil => exact absurd rfl hne
  | cons s rest ih =>
    have hs : split separator s = [s] := split_of_notMem (h s (by simp))
    cases rest with
    | nil => rw [String.intercalate_singleton, hs]
    | cons t rest =>
      have hrest := ih (by simp) fun s' hs' => h s' (by simp [hs'])
      rw [String.intercalate_cons_cons, split_separated hbetween, hs, hrest]
      rfl

theorem eq_empty_of_split_eq {s : String} (h : split separator s = [""]) : s = "" := by
  have hchars := intercalate_splitChars separator s.toList
  have hparts : splitChars separator s.toList = [[]] := by
    obtain ⟨part, parts, hcons⟩ :=
      List.exists_cons_of_ne_nil (splitChars_ne_nil separator s.toList)
    rw [split, hcons] at h
    simp at h
    rw [hcons, h.1, h.2]
  rw [hparts] at hchars
  simpa using hchars.symm

theorem notMem_of_mem_split {s part : String} (h : part ∈ split separator s) :
    separator ∉ part.toList := by
  obtain ⟨cs, hcs, rfl⟩ := List.mem_map.mp h
  rw [String.toList_ofList]
  exact not_mem_of_mem_splitChars hcs

/-- A character that is no separator is in one of the parts. -/
theorem exists_part_of_mem {s : String} {c : Char} (hc : c ∈ s.toList) (hne : c ≠ separator) :
    ∃ part ∈ split separator s, c ∈ part.toList := by
  have hchars : ∃ part ∈ splitChars separator s.toList, c ∈ part := by
    generalize s.toList = cs at hc
    induction cs with
    | nil => cases hc
    | cons d rest ih =>
      by_cases hd : d = separator
      · obtain ⟨part, hpart, hmem⟩ := ih ((List.mem_cons.mp hc).resolve_left (hd ▸ hne))
        exact ⟨part, by simp [splitChars, hd, hpart], hmem⟩
      · obtain ⟨first, parts, hparts⟩ :=
          List.exists_cons_of_ne_nil (splitChars_ne_nil separator rest)
        have hcons : splitChars separator (d :: rest) = (d :: first) :: parts := by
          simp [splitChars, hd, hparts]
        rw [hcons]
        obtain rfl | hc := List.mem_cons.mp hc
        · exact ⟨c :: first, by simp, by simp⟩
        · obtain ⟨part, hpart, hmem⟩ := ih hc
          rw [hparts] at hpart
          obtain rfl | hpart := List.mem_cons.mp hpart
          · exact ⟨d :: part, by simp, by simp [hmem]⟩
          · exact ⟨part, by simp [hpart], hmem⟩
  obtain ⟨part, hpart, hmem⟩ := hchars
  exact ⟨String.ofList part, List.mem_map_of_mem hpart, by simpa using hmem⟩

theorem mem_intercalate {between : String} {parts : List String} {c : Char}
    (hc : c ∈ (between.intercalate parts).toList) :
    c ∈ between.toList ∨ ∃ part ∈ parts, c ∈ part.toList := by
  induction parts with
  | nil => cases hc
  | cons p rest ih =>
    cases rest with
    | nil =>
      rw [String.intercalate_singleton] at hc
      exact .inr ⟨p, by simp, hc⟩
    | cons q rest =>
      rw [String.intercalate_cons_cons, String.toList_append, String.toList_append,
        List.mem_append, List.mem_append] at hc
      obtain (hc | hc) | hc := hc
      · exact .inr ⟨p, by simp, hc⟩
      · exact .inl hc
      · obtain hc | ⟨part, hpart, hc⟩ := ih hc
        · exact .inl hc
        · exact .inr ⟨part, by simp [hpart], hc⟩

/-! ## Indentation -/

/-- A text without the blanks that it starts with. -/
def trimStart (text : String) : String := String.ofList (text.toList.dropWhile (· = ' '))

theorem trimStart_append {front : String} (h : ∀ c ∈ front.toList, c = ' ') (s : String) :
    trimStart (front ++ s) = trimStart s := by
  rw [trimStart, trimStart, String.toList_append,
    List.dropWhile_append_of_pos (by simpa using h)]

theorem trimStart_eq_self {s : String} (h : ∀ c ∈ s.toList.head?, c ≠ ' ') : trimStart s = s := by
  rw [trimStart]
  cases hs : s.toList with
  | nil => rw [← String.toList_inj, hs]; rfl
  | cons c rest =>
    rw [hs] at h
    rw [List.dropWhile_cons_of_neg (by simpa using h c rfl), ← hs, String.ofList_toList]

theorem trimStart_ofList {cs : List Char} (h : ∀ c ∈ cs.head?, c ≠ ' ') :
    trimStart (String.ofList cs) = String.ofList cs :=
  trimStart_eq_self (by rwa [String.toList_ofList])

end Boundary.Text
