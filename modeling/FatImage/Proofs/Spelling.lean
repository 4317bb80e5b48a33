import FatImage.Proofs.Names

/-!
# The spellings of a name

A name can be spelled in small letters or in capitals, and a name without an
extension with a dot at its end or without. Nothing else is free: all spellings
of a name are one text when they are put in capitals and lose the dot, and this
text is what the name is shown as. It is a spelling itself, so a name that is
shown can be read back.

To show a name is to take the padding off its two fields. This takes nothing
away that was spelled, because no permitted character is a space.
-/

namespace FatImage.ShortName

variable {text base extension cs : List Char} {c : Char} {n n' : ShortName}

/-- The text without the dot at its end, if there is one. -/
def withoutDot (cs : List Char) : List Char :=
  if cs.getLast? = some '.' then cs.dropLast else cs

/-- The text in capitals and without a dot at its end. -/
def shown (text : String) : String :=
  String.ofList (withoutDot text.toUpper.toList)

/-! ## Capitals -/

theorem Permitted.toUpper (h : Permitted c) : Permitted c.toUpper :=
  h.of_ascii (p := fun c => Permitted c → Permitted c.toUpper) (by decide) h

theorem Permitted.toUpper_toUpper (h : Permitted c) : c.toUpper.toUpper = c.toUpper :=
  h.of_ascii (p := fun c => c.toUpper.toUpper = c.toUpper) (by decide)

theorem Permitted.toUpper_ne_dot (h : Permitted c) (hc : c ≠ '.') : c.toUpper ≠ '.' :=
  h.of_ascii (p := fun c => c ≠ '.' → c.toUpper ≠ '.') (by decide) hc

theorem Permitted.ofNat_toUInt8 (h : Permitted c) :
    Char.ofNat c.toUpper.toNat.toUInt8.toNat = c.toUpper :=
  h.of_ascii (p := fun c => Char.ofNat c.toUpper.toNat.toUInt8.toNat = c.toUpper) (by decide)

theorem Permitted.toUInt8_ne_padding (h : Permitted c) : c.toUpper.toNat.toUInt8 ≠ padding :=
  h.of_ascii (p := fun c => 0x21 ≤ c.toNat → c.toUpper.toNat.toUInt8 ≠ padding) (by decide) h.1

theorem padded_map_toUpper (k : Nat) (h : ∀ c ∈ cs, Permitted c) :
    padded k (cs.map Char.toUpper) = padded k cs := by
  have hbytes : (cs.map Char.toUpper).map (fun c => c.toUpper.toNat.toUInt8) =
      cs.map fun c => c.toUpper.toNat.toUInt8 := by
    rw [List.map_map]
    refine List.map_congr_left fun c hc => ?_
    rw [Function.comp_apply, (h c hc).toUpper_toUpper]
  rw [padded, padded, hbytes, List.length_map]

theorem not_mem_map_toUpper (h : ∀ c ∈ cs, Permitted c) (hdot : '.' ∉ cs) :
    '.' ∉ cs.map Char.toUpper := by
  intro hmem
  obtain ⟨c, hc, hupper⟩ := List.mem_map.1 hmem
  exact (h c hc).toUpper_ne_dot (ne_of_mem_of_not_mem hc hdot) hupper

theorem Parts.map_toUpper (h : Parts text base extension) (hfit : Fitting base extension) :
    Parts (text.map Char.toUpper) (base.map Char.toUpper) (extension.map Char.toUpper) := by
  cases h with
  | plain hbase => exact .plain (not_mem_map_toUpper hfit.permitted_base hbase)
  | dotted hbase hextension =>
      rw [List.map_append, List.map_cons]
      exact .dotted (not_mem_map_toUpper hfit.permitted_base hbase)
        (not_mem_map_toUpper hfit.permitted_extension hextension)

theorem Fitting.map_toUpper (h : Fitting base extension) :
    Fitting (base.map Char.toUpper) (extension.map Char.toUpper) where
  nonempty hnil := h.nonempty (List.map_eq_nil_iff.1 hnil)
  permitted c hc := by
    rw [← List.map_append] at hc
    obtain ⟨d, hd, rfl⟩ := List.mem_map.1 hc
    exact (h.permitted d hd).toUpper
  base_le := by
    rw [List.length_map]
    exact h.base_le
  extension_le := by
    rw [List.length_map]
    exact h.extension_le

/-! ## The dot at the end -/

/-- The two parts as a text, with a dot only where an extension follows. -/
def joined (base extension : List Char) : List Char :=
  base ++ if extension.isEmpty then [] else '.' :: extension

theorem withoutDot_of_not_mem (h : '.' ∉ cs) : withoutDot cs = cs :=
  if_neg fun hlast => h (List.mem_of_getLast? hlast)

theorem Parts.withoutDot_eq (h : Parts text base extension) :
    withoutDot text = joined base extension := by
  cases h with
  | plain hbase =>
      rw [withoutDot_of_not_mem hbase, joined]
      exact (List.append_nil _).symm
  | dotted hbase hextension =>
      cases extension with
      | nil =>
          rw [withoutDot, if_pos List.getLast?_concat, List.dropLast_concat, joined]
          exact (List.append_nil _).symm
      | cons c extension =>
          refine if_neg fun hlast => hextension ?_
          rw [List.getLast?_append, List.getLast?_cons_cons, List.getLast?_cons,
            Option.some_or, ← List.getLast?_cons] at hlast
          exact List.mem_of_getLast? hlast

theorem Parts.of_joined (h : Parts text base extension) :
    Parts (joined base extension) base extension := by
  cases h with
  | plain hbase =>
      rw [← (Parts.plain hbase).withoutDot_eq, withoutDot_of_not_mem hbase]
      exact .plain hbase
  | dotted hbase hextension =>
      cases extension with
      | nil =>
          rw [← (Parts.plain hbase).withoutDot_eq, withoutDot_of_not_mem hbase]
          exact .plain hbase
      | cons c extension => exact .dotted hbase hextension

/-! ## Names that are shown -/

/-- Taking the padding off leaves the part in capitals. -/
theorem fieldText_padded {k : Nat} (h : ∀ c ∈ cs, Permitted c) :
    fieldText (padded k cs) = cs.map Char.toUpper := by
  have hpadding : ∀ b ∈ List.replicate (k - cs.length) (0x20 : UInt8), (b == padding) = true := by
    intro b hb
    rw [List.eq_of_mem_replicate hb]
    rfl
  have hbytes : (cs.map fun c => c.toUpper.toNat.toUInt8).reverse.dropWhile (· == padding) =
      (cs.map fun c => c.toUpper.toNat.toUInt8).reverse := by
    rw [List.dropWhile_eq_self_iff]
    intro hl
    obtain ⟨c, hc, hfirst⟩ := List.mem_map.1 (List.mem_reverse.1 (List.getElem_mem hl))
    rw [← hfirst, beq_iff_eq]
    exact (h c hc).toUInt8_ne_padding
  rw [fieldText, padded, List.reverse_append, List.reverse_replicate,
    List.dropWhile_append_of_pos hpadding, hbytes, List.reverse_reverse, List.map_map]
  exact List.map_congr_left fun c hc => (h c hc).ofNat_toUInt8

theorem displayChars_eq (hfit : Fitting base extension) :
    displayChars ⟨field 8 base, field 3 extension⟩ =
      joined (base.map Char.toUpper) (extension.map Char.toUpper) := by
  have hbase : fieldText (field 8 base).toList = base.map Char.toUpper := by
    rw [toList_field hfit.base_le]
    exact fieldText_padded hfit.permitted_base
  have hextension : fieldText (field 3 extension).toList = extension.map Char.toUpper := by
    rw [toList_field hfit.extension_le]
    exact fieldText_padded hfit.permitted_extension
  simp only [displayChars, hbase, hextension]
  rfl

/-- A name is shown as any of its spellings in capitals, without the dot at the end. -/
theorem display_of_parse {text : String} (h : ofString text = .ok n) : n.display = shown text := by
  obtain ⟨base, extension, hparts, hfit, rfl⟩ := fields_of_parse h
  have hshown := (hparts.map_toUpper hfit).withoutDot_eq
  rw [display, displayChars_eq hfit, ← hshown, shown, String.toUpper, String.toList_map]

/-- What a name is shown as is one of its spellings. -/
theorem ofString_display {text : String} (h : ofString text = .ok n) :
    ofString n.display = .ok n := by
  obtain ⟨base, extension, hparts, hfit, rfl⟩ := fields_of_parse h
  rw [ofString, display, String.toList_ofList, displayChars_eq hfit, parse_eq_ok_iff]
  refine ⟨_, _, (hparts.map_toUpper hfit).of_joined, hfit.map_toUpper, ?_⟩
  rw [padded_map_toUpper 8 hfit.permitted_base, padded_map_toUpper 3 hfit.permitted_extension,
    bytes, toList_field hfit.base_le, toList_field hfit.extension_le]

theorem eq_of_display (hn : ofString n.display = .ok n) (hn' : ofString n'.display = .ok n')
    (h : n.display = n'.display) : n = n' := by
  rw [h] at hn
  exact Except.ok.inj (hn.symm.trans hn')

/-- A name is shown as its spelling in capitals without a dot at the end, and read back from
that; two texts spell one name just if this spelling is the same. So a name is known by what
it is shown as. -/
theorem display_of_spellings {s t : String} (hs : ofString s = .ok n)
    (ht : ofString t = .ok n') :
    n.display = shown s ∧ ofString n.display = .ok n ∧
      (n = n' ↔ shown s = shown t) ∧ (n.display = n'.display → n = n') := by
  have hinj := eq_of_display (ofString_display hs) (ofString_display ht)
  refine ⟨display_of_parse hs, ofString_display hs, ⟨?_, fun h => hinj ?_⟩, hinj⟩
  · rintro rfl
    rw [← display_of_parse hs, display_of_parse ht]
  · rw [display_of_parse hs, display_of_parse ht, h]

/-- Small letters and a dot at the end make no other name. -/
theorem display_of_spellings_kernel :
    ∃ n, ofString "kernel." = .ok n ∧ ofString "Kernel" = .ok n ∧ n.display = "KERNEL" ∧
      n.display = shown "kernel." ∧ ofString n.display = .ok n ∧
      shown "kernel." = shown "Kernel" := by
  have hs : ofString "kernel." = .ok ⟨field 8 "kernel".toList, field 3 []⟩ := by
    decide
  have ht : ofString "Kernel" = .ok ⟨field 8 "kernel".toList, field 3 []⟩ := by
    decide
  obtain ⟨hdisplay, hback, hsame, -⟩ := display_of_spellings hs ht
  exact ⟨_, hs, ht, by decide, hdisplay, hback, hsame.1 rfl⟩

end FatImage.ShortName
