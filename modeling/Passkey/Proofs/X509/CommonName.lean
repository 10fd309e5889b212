import Passkey.Attestation.SafetyNet

/-!
# Common names

Whether a subject has a common name is told from the text of its attributes, in which characters may
be escaped, types have names or numbers, and values that are no text are shown by their octets. A
name without characters that are escaped is the text of one value only, under one type
(`Attribute.text_eq_iff`), so that nothing else passes for it.
-/

namespace Passkey.X509

/-! ### Escaping -/

/-- No character of the text is escaped where it stands: there are no control characters and none of
those with a meaning in a name, no number sign or space begins it, and no space ends it. -/
structure Plain (text : List Char) : Prop where
  inner : ∀ c ∈ text, c ∉ ['"', '+', ',', ';', '<', '>', '\\'] ∧ 0x20 ≤ c.toNat ∧ c.toNat ≠ 0x7f
  first : text.head? ≠ some '#' ∧ text.head? ≠ some ' '
  last : text.getLast? ≠ some ' '

instance (text : List Char) : Decidable (Plain text) :=
  decidable_of_iff
    ((text.all fun c =>
        c ∉ ['"', '+', ',', ';', '<', '>', '\\'] ∧ 0x20 ≤ c.toNat ∧ c.toNat ≠ 0x7f) = true
      ∧ (text.head? ≠ some '#' ∧ text.head? ≠ some ' ') ∧ text.getLast? ≠ some ' ')
    ⟨fun ⟨inner, first, last⟩ =>
        ⟨fun c hc => of_decide_eq_true (List.all_eq_true.1 inner c hc), first, last⟩,
      fun ⟨inner, first, last⟩ =>
        ⟨List.all_eq_true.2 fun c hc => decide_eq_true (inner c hc), first, last⟩⟩

section Escaping

variable {c : Char} {text value rest : List Char}

theorem escapeRest_cons (h : c = ' ' → rest ≠ []) :
    escapeRest (c :: rest) = escapeInner c ++ escapeRest rest := by
  rw [escapeRest]
  exact h

/-! What is escaped shows a backslash. -/

theorem escapeInner_eq_self (h : '\\' ∉ escapeInner c) : escapeInner c = [c] := by
  unfold escapeInner at h ⊢
  split
  · next hspecial =>
    rw [if_pos hspecial] at h
    exact absurd List.mem_cons_self h
  · next hspecial =>
    rw [if_neg hspecial] at h
    split
    · next hcontrol =>
      rw [if_pos hcontrol] at h
      exact absurd List.mem_cons_self h
    · rfl

theorem escapeRest_eq_self (h : '\\' ∉ escapeRest text) : escapeRest text = text := by
  induction text using escapeRest.induct with
  | case1 => rfl
  | case2 => exact absurd List.mem_cons_self h
  | case3 c rest hspace ih =>
    rw [escapeRest_cons hspace, List.mem_append, not_or] at h
    rw [escapeRest_cons hspace, escapeInner_eq_self h.1, ih h.2, List.singleton_append]

theorem escapeValue_eq_self (h : '\\' ∉ escapeValue text) : escapeValue text = text := by
  cases text with
  | nil => rfl
  | cons c rest =>
    rw [escapeValue, List.mem_append, not_or] at h
    obtain ⟨hfirst, hrest⟩ := h
    rw [escapeValue, escapeRest_eq_self hrest]
    split
    · next hescaped =>
      rw [if_pos hescaped] at hfirst
      exact absurd List.mem_cons_self hfirst
    · next hescaped =>
      rw [if_neg hescaped] at hfirst
      rw [escapeInner_eq_self hfirst, List.singleton_append]

/-! What is plain is not escaped. -/

theorem getLast?_ne_of_cons (h : (c :: rest).getLast? ≠ some ' ') : rest.getLast? ≠ some ' ' := by
  cases rest with
  | nil => exact nofun
  | cons d rest => rwa [List.getLast?_cons_cons] at h

theorem escapeInner_of_plain (hspecial : c ∉ specialChars)
    (hcontrol : 0x20 ≤ c.toNat ∧ c.toNat ≠ 0x7f) : escapeInner c = [c] := by
  rw [escapeInner, if_neg (by simpa using hspecial), if_neg (by omega)]

theorem escapeRest_of_plain
    (hinner : ∀ c ∈ text, c ∉ specialChars ∧ 0x20 ≤ c.toNat ∧ c.toNat ≠ 0x7f)
    (hlast : text.getLast? ≠ some ' ') : escapeRest text = text := by
  induction text using escapeRest.induct with
  | case1 => rfl
  | case2 => exact absurd rfl hlast
  | case3 c rest hspace ih =>
    obtain ⟨hc, hrest⟩ := List.forall_mem_cons.1 hinner
    rw [escapeRest_cons hspace, escapeInner_of_plain hc.1 hc.2,
      ih hrest (getLast?_ne_of_cons hlast), List.singleton_append]

theorem Plain.escapeValue_eq (h : Plain text) : escapeValue text = text := by
  cases text with
  | nil => rfl
  | cons c rest =>
    obtain ⟨hc, hrest⟩ := List.forall_mem_cons.1 h.inner
    have hfirst : ¬ (c = '#' ∨ c = ' ') := by
      rintro (rfl | rfl)
      · exact h.first.1 rfl
      · exact h.first.2 rfl
    rw [escapeValue, if_neg hfirst, escapeInner_of_plain hc.1 hc.2,
      escapeRest_of_plain hrest (getLast?_ne_of_cons h.last), List.singleton_append]

/-- Plain text is shown for itself and for nothing else. -/
theorem Plain.escapeValue_eq_iff (h : Plain text) : escapeValue value = text ↔ value = text := by
  constructor
  · rintro rfl
    have hbackslash : '\\' ∉ escapeValue value := fun hmem => by simpa using h.inner _ hmem
    exact (escapeValue_eq_self hbackslash).symm
  · rintro rfl
    exact h.escapeValue_eq

end Escaping

/-! ### Values that are text -/

/-- The element is a string of one of the types that are shown, it keeps to the alphabet of its type,
and its octets are those of the text. -/
structure ShowsText (e : Der.Element) (text : String) : Prop where
  octets : e.content = Utf8.encode text
  type : e.tag = Der.Tag.utf8String
    ∨ (e.tag = Der.Tag.ia5String ∨ e.tag = Der.Tag.teletexString) ∧ (∀ b ∈ e.content, b < 0x80)
    ∨ e.tag = Der.Tag.printableString ∧ ∀ b ∈ e.content, isPrintableOctet b = true

theorem stringValue?_eq_some {e : Der.Element} {text : String} :
    stringValue? e = some text ↔ ShowsText e text := by
  have hread : stringValue? e = some text ↔ e.content = Utf8.encode text ∧
      (if e.tag = Der.Tag.printableString then e.content.all isPrintableOctet
        else if e.tag = Der.Tag.ia5String || e.tag = Der.Tag.teletexString then
          e.content.all (· < 0x80)
        else decide (e.tag = Der.Tag.utf8String)) = true := by
    simp only [stringValue?, Option.ite_none_right_eq_some, Utf8.decode?_eq_some, and_comm]
  have hshows : ShowsText e text ↔ e.content = Utf8.encode text ∧
      (e.tag = Der.Tag.utf8String
        ∨ (e.tag = Der.Tag.ia5String ∨ e.tag = Der.Tag.teletexString) ∧
            (∀ b ∈ e.content, b < 0x80)
        ∨ e.tag = Der.Tag.printableString ∧ ∀ b ∈ e.content, isPrintableOctet b = true) :=
    ⟨fun h => ⟨h.octets, h.type⟩, fun h => ⟨h.1, h.2⟩⟩
  rw [hread, hshows]
  refine and_congr_right fun _ => ?_
  -- The four tags differ, so at most one of the three cases is open.
  by_cases hprintable : e.tag = Der.Tag.printableString
  · simp [hprintable, Der.Tag.printableString, Der.Tag.utf8String, Der.Tag.ia5String,
      Der.Tag.teletexString]
  · by_cases hascii : e.tag = Der.Tag.ia5String ∨ e.tag = Der.Tag.teletexString
    · have hutf8 : e.tag ≠ Der.Tag.utf8String := by
        rcases hascii with h | h <;> rw [h] <;> decide
      simp [hprintable, hascii, hutf8]
    · simp [hprintable, hascii]

/-! ### Types by name and by number -/

/-- One attribute type has the name of common names, and no name has an equals sign. -/
theorem of_mem_attributeNames :
    ∀ entry ∈ attributeNames, '=' ∉ entry.2.toList.map Char.toUpper ∧
      (entry.2.toList.map Char.toUpper = ['C', 'N'] → entry.1 = commonName) := by
  decide +kernel

theorem shortName?_commonName : shortName? commonName = some "cn" := by
  decide +kernel

/-- The numbers of a type are shown by digits with dots between them. -/
theorem of_mem_toString {o : Oid} {c : Char} (h : c ∈ o.toString.toList) :
    c.isDigit = true ∨ c = '.' := by
  have hdigit {n : Nat} (hc : c ∈ (toString n).toList) : c.isDigit = true := by
    rw [Nat.toString_eq_repr, Nat.repr_eq_ofList_toDigits, String.toList_ofList] at hc
    exact Nat.isDigit_of_mem_toDigits (by decide) (by decide) hc
  rw [Oid.toString] at h
  generalize o.arcs = arcs at h
  induction arcs with
  | nil => simp at h
  | cons n arcs ih =>
    cases arcs with
    | nil => exact .inl (hdigit (by simpa using h))
    | cons m arcs =>
      rw [List.map_cons, List.map_cons, String.intercalate_cons_cons, String.toList_append,
        String.toList_append, List.mem_append, List.mem_append] at h
      rcases h with (h | h) | h
      · exact .inl (hdigit h)
      · exact .inr (by simpa using h)
      · exact ih h

/-! ### Attributes -/

section Attributes

variable {key name shown : List Char}

/-- The text of an attribute is cut at its first equals sign. -/
theorem append_equals_inj {key' shown' : List Char} (h : '=' ∉ key) (h' : '=' ∉ key') :
    key ++ '=' :: shown = key' ++ '=' :: shown' ↔ key = key' ∧ shown = shown' := by
  have hcut {key shown : List Char} (h : '=' ∉ key) :
      (key ++ '=' :: shown).takeWhile (· ≠ '=') = key := by
    have hkey : ∀ c ∈ key, decide (c ≠ '=') = true := fun c hc =>
      decide_eq_true fun heq => h (heq ▸ hc)
    rw [List.takeWhile_append_of_pos hkey]
    simp
  constructor
  · intro heq
    obtain rfl : key = key' := by rw [← hcut h, heq, hcut h']
    exact ⟨rfl, by simpa using heq⟩
  · rintro ⟨rfl, rfl⟩
    rfl

/-- What is shown by its name shows as a common name only if that is what it is. -/
theorem toUpper_append_eq_iff {type : Oid} {key : String} (h : shortName? type = some key) :
    key.toList.map Char.toUpper ++ '=' :: shown = ['C', 'N'] ++ '=' :: name ↔
      type = commonName ∧ shown = name := by
  obtain ⟨⟨type', key'⟩, hfind, rfl⟩ := Option.map_eq_some_iff.1 h
  obtain rfl : type' = type := by simpa using List.find?_some hfind
  obtain ⟨hequals, hname⟩ := of_mem_attributeNames _ (List.mem_of_find?_eq_some hfind)
  rw [append_equals_inj hequals (by decide)]
  refine and_congr_left fun _ => ⟨hname, ?_⟩
  rintro rfl
  rw [shortName?_commonName, Option.some.injEq] at h
  rw [← h]
  decide

/-- What is shown by its numbers does not show as a common name. -/
theorem toString_append_ne (o : Oid) :
    o.toString.toList ++ '=' :: shown ≠ ['C', 'N'] ++ '=' :: name := by
  have hnumbers {c : Char} (hc : ¬ (c.isDigit = true ∨ c = '.')) : c ∉ o.toString.toList :=
    fun hmem => hc (of_mem_toString hmem)
  rw [Ne, append_equals_inj (hnumbers (by decide)) (by decide)]
  rintro ⟨hkey, -⟩
  exact hnumbers (by decide : ¬ ('C'.isDigit = true ∨ 'C' = '.')) (hkey ▸ List.mem_cons_self)

/-- An attribute shows as a plain common name only if its type is that of common names and its value
shows the name. -/
theorem Attribute.text_eq_iff {name : String} (h : Plain name.toList) (a : Attribute) :
    a.text = "CN=" ++ name ↔ a.type = commonName ∧ ShowsText a.value name := by
  have hlists : a.text = "CN=" ++ name ↔ a.text.toList = ['C', 'N'] ++ '=' :: name.toList := by
    rw [← String.toList_inj, String.toList_append]
    rfl
  rw [hlists, ← stringValue?_eq_some]
  by_cases hnamed : ∃ key value, shortName? a.type = some key ∧ stringValue? a.value = some value
  · obtain ⟨key, value, htype, hvalue⟩ := hnamed
    have htext : a.text.toList =
        key.toList.map Char.toUpper ++ '=' :: escapeValue value.toList := by
      simp [Attribute.text, htype, hvalue, String.toUpper]
    rw [htext, toUpper_append_eq_iff htype, h.escapeValue_eq_iff, String.toList_inj, hvalue,
      Option.some.injEq]
  · have htext : a.text.toList =
        a.type.toString.toList ++ '=' :: '#' :: (Bytes.toHex a.value.write).toList := by
      rw [Attribute.text]
      split
      · exact absurd ⟨_, _, ‹_›, ‹_›⟩ hnamed
      · simp
    rw [htext]
    constructor
    · exact fun heq => absurd heq (toString_append_ne a.type)
    · rintro ⟨htype, hvalue⟩
      exact absurd ⟨_, _, htype ▸ shortName?_commonName, hvalue⟩ hnamed

end Attributes

/-! ### Subjects -/

/-- A text of the alphabet that all types have is shown by every type. -/
theorem showsText_iff_of_printable {e : Der.Element} {text : String}
    (h : ∀ b ∈ Utf8.encode text, isPrintableOctet b = true ∧ b < 0x80) :
    ShowsText e text ↔
      e.tag ∈ [Der.Tag.printableString, Der.Tag.utf8String, Der.Tag.ia5String,
        Der.Tag.teletexString] ∧ e.content = Utf8.encode text := by
  constructor
  · rintro ⟨hoctets, htype⟩
    refine ⟨?_, hoctets⟩
    rcases htype with htag | ⟨htag | htag, -⟩ | ⟨htag, -⟩ <;> simp [htag]
  · rintro ⟨htag, hoctets⟩
    have hprintable : ∀ b ∈ e.content, isPrintableOctet b = true :=
      fun b hb => (h b (hoctets ▸ hb)).1
    have hascii : ∀ b ∈ e.content, b < 0x80 := fun b hb => (h b (hoctets ▸ hb)).2
    simp only [List.mem_cons, List.not_mem_nil, or_false] at htag
    refine ⟨hoctets, ?_⟩
    rcases htag with htag | htag | htag | htag
    · exact .inr (.inr ⟨htag, hprintable⟩)
    · exact .inl htag
    · exact .inr (.inl ⟨.inl htag, hascii⟩)
    · exact .inr (.inl ⟨.inr htag, hascii⟩)

namespace Certificate

theorem hasCommonName_iff {name : String} (h : Plain name.toList) (c : Certificate) :
    c.hasCommonName name = true ↔
      ∃ a ∈ c.content.subject.levels.flatten, a.type = commonName ∧ ShowsText a.value name := by
  simp only [hasCommonName, List.any_eq_true, beq_iff_eq, Attribute.text_eq_iff h]

/-- The common names of a subject are the texts of its attributes of one type, as far as they are
plain. In particular the host of attestations is a common name only by its own octets, in an
attribute of that type. -/
theorem common_name_exact (c : Certificate) :
    (∀ name : String, Plain name.toList →
      (c.hasCommonName name = true ↔
        ∃ a ∈ c.content.subject.levels.flatten,
          a.type = .ofArcs [2, 5, 4, 3] ∧ ShowsText a.value name)) ∧
    (c.hasCommonName Attestation.attestationHost = true ↔
      ∃ a ∈ c.content.subject.levels.flatten,
        a.type = .ofArcs [2, 5, 4, 3] ∧
          a.value.tag ∈ [Der.Tag.printableString, Der.Tag.utf8String, Der.Tag.ia5String,
            Der.Tag.teletexString] ∧
          a.value.content = Utf8.encode "attest.android.com") := by
  have hhost : Plain Attestation.attestationHost.toList := by decide +kernel
  have hprintable : ∀ b ∈ Utf8.encode Attestation.attestationHost,
      isPrintableOctet b = true ∧ b < 0x80 := by decide +kernel
  refine ⟨fun name hname => hasCommonName_iff hname c, ?_⟩
  simp only [hasCommonName_iff hhost, showsText_iff_of_printable hprintable]
  rfl

/-- A certificate whose subject is the host of attestations. -/
def ofHost : Certificate where
  der := []
  signedOctets := []
  content :=
    { version := .v3
      serial := [1]
      issuer := ⟨[]⟩
      notBefore := 0
      notAfter := 0
      subject := ⟨[[⟨commonName, ⟨Der.Tag.printableString, Utf8.encode "attest.android.com"⟩⟩]]⟩
      keyInfo := ⟨⟨ed25519Id, none⟩, ⟨0, []⟩⟩
      extensions := [] }
  signatureAlgorithm := ⟨ed25519Id, none⟩
  signature := ⟨0, []⟩

/-- The name of its domain is plain too, but it is no common name of the host. -/
theorem ofHost_common_name :
    Plain "android.com".toList ∧ ofHost.hasCommonName "android.com" = false ∧
      ofHost.hasCommonName Attestation.attestationHost = true := by
  have hplain : Plain "android.com".toList := by decide +kernel
  obtain ⟨hnames, hhost⟩ := common_name_exact ofHost
  refine ⟨hplain, ?_, ?_⟩
  · rw [Bool.eq_false_iff, Ne, hnames _ hplain]
    rintro ⟨a, ha, -, htext⟩
    obtain rfl : a = ⟨commonName, ⟨Der.Tag.printableString, Utf8.encode "attest.android.com"⟩⟩ := by
      simpa [ofHost] using ha
    exact absurd htext.octets (by decide +kernel)
  · refine hhost.2 ⟨_, List.mem_singleton_self _, rfl, ?_, rfl⟩
    decide

end Certificate

end Passkey.X509
