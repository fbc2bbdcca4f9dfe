import ActivityArchive.Metric.Ident

/-!
Identifiers and their fields. The fields that are accepted lie side by side in the word, from the
domain at the top down to bit 0, and fill all of it but the top bit. So words without the top bit
and fields that fit stand for each other one to one, for metrics and for instance domains alike
(`identifiers_packed`).
-/
namespace ActivityArchive

variable {F I : Type}

/-- Fields that fit are the identifiers whose words have no top bit. They are laid into the word by
`layout` and cut out of it by `cut`; entries of tables are packed and refused alike. -/
structure Packing (Fits : F → Prop) (ofFields : F → Except IdentError I)
    (ofTable : F → Except TableIdentError I) (fields : I → F) (raw : I → UInt32)
    (layout : F → UInt32) (cut : UInt32 → F) : Prop where
  accepts : ∀ f, (∃ id, ofFields f = .ok id) ↔ Fits f
  layout : ∀ f id, ofFields f = .ok id → raw id = layout f
  cut : ∀ id, fields id = cut (raw id)
  decodes : ∀ f id, ofFields f = .ok id → fields id = f
  table : ∀ f id, ofTable f = .ok id ↔ ofFields f = .ok id
  refuses : ∀ f, (∃ cause, ofTable f = .error cause) ↔ ¬ Fits f
  injective : ∀ f g id, ofFields f = .ok id → ofFields g = .ok id → f = g
  produced : ∀ id, (∃ f, ofFields f = .ok id) ↔ (raw id).toNat.testBit 31 = false
  reencodes : ∀ id, (raw id).toNat.testBit 31 = false → ofFields (fields id) = .ok id

/-- All follows from when fields are accepted, and which fields a word has. -/
theorem packing {Fits : F → Prop} {ofFields : F → Except IdentError I}
    {ofTable : F → Except TableIdentError I} {fields : I → F} {raw : I → UInt32}
    {layout : F → UInt32} {cut : UInt32 → F} (pack : F → I)
    (hfields : ∀ f id, ofFields f = .ok id ↔ Fits f ∧ pack f = id)
    (htable : ∀ f id, ofTable f = .ok id ↔ Fits f ∧ pack f = id)
    (hpack : ∀ f id, Fits f ∧ pack f = id ↔ (raw id).toNat.testBit 31 = false ∧
      fields id = f)
    (hlayout : ∀ f, Fits f → raw (pack f) = layout f)
    (hcut : ∀ id, fields id = cut (raw id)) :
    Packing Fits ofFields ofTable fields raw layout cut := by
  have hread : ∀ f id, ofFields f = .ok id ↔ (raw id).toNat.testBit 31 = false ∧
      fields id = f :=
    fun f id => (hfields f id).trans (hpack f id)
  have htableOk : ∀ f, (∃ id, ofTable f = .ok id) ↔ Fits f := fun f =>
    ⟨fun ⟨id, h⟩ => ((htable f id).mp h).1,
      fun h => ⟨pack f, (htable f _).mpr ⟨h, rfl⟩⟩⟩
  refine ⟨fun f => ?_, fun f id h => ?_, hcut, fun f id h => ((hread f id).mp h).2,
    fun f id => (htable f id).trans (hfields f id).symm, fun f => ?_, fun f g id hf hg => ?_,
    fun id => ?_, fun id h => (hread (fields id) id).mpr ⟨h, rfl⟩⟩
  · exact ⟨fun ⟨id, h⟩ => ((hfields f id).mp h).1,
      fun h => ⟨pack f, (hfields f _).mpr ⟨h, rfl⟩⟩⟩
  · obtain ⟨hfits, rfl⟩ := (hfields f id).mp h
    exact hlayout f hfits
  · rw [← htableOk]
    cases ofTable f <;> simp
  · exact ((hread f id).mp hf).2.symm.trans ((hread g id).mp hg).2
  · exact ⟨fun ⟨f, h⟩ => ((hread f id).mp h).1,
      fun h => ⟨fields id, (hread _ id).mpr ⟨h, rfl⟩⟩⟩

/-- The top bit tells whether a word is below 2^31. -/
theorem testBit_top (w : UInt32) : w.toNat.testBit 31 = false ↔ w.toNat < 2147483648 := by
  have hlt := w.toNat_lt
  rw [Nat.testBit_eq_decide_div_mod_eq, decide_eq_false_iff_not]
  omega

/-- A field that is too wide is refused before the others are looked at. -/
theorem check_ok_iff {E A : Type} {value max : UInt32} {cause : E} {x : Except E A} {out : A} :
    (if max < value then .error cause else x) = .ok out ↔ value ≤ max ∧ x = .ok out := by
  by_cases h : max < value
  · simp [h, UInt32.not_le.mpr h]
  · simp [h, UInt32.not_lt.mp h]

theorem checkField_bind {A : Type} (field : String) (value max : UInt32)
    (f : UInt32 → Except IdentError A) :
    (checkField field value max >>= f) =
      if max < value then .error (.outOfRange field value max) else f value := by
  unfold checkField
  split <;> rfl

/-- Bits that are not pushed out of the word. -/
theorem toNat_shiftLeft {x places : UInt32} {n : Nat} (hplaces : places.toNat = n) (hn : n < 32)
    (hx : x.toNat <<< n < UInt32.size) : (x <<< places).toNat = x.toNat <<< n := by
  rw [UInt32.toNat_shiftLeft, hplaces, Nat.mod_eq_of_lt hn]
  exact Nat.mod_eq_of_lt hx

/-- The bits under a mask of ones. -/
theorem and_eq_mod (w : UInt32) : w &&& 511 = w % 512 ∧ w &&& 1023 = w % 1024 ∧
    w &&& 4095 = w % 4096 ∧ w &&& 4194303 = w % 4194304 := by
  simp only [← UInt32.toNat_inj, UInt32.toNat_and, UInt32.toNat_mod, UInt32.reduceToNat]
  exact ⟨Nat.and_two_pow_sub_one_eq_mod _ 9, Nat.and_two_pow_sub_one_eq_mod _ 10,
    Nat.and_two_pow_sub_one_eq_mod _ 12, Nat.and_two_pow_sub_one_eq_mod _ 22⟩

theorem shiftRight_eq_div (w : UInt32) : w >>> 10 = w / 1024 ∧ w >>> 22 = w / 4194304 := by
  simp only [← UInt32.toNat_inj, UInt32.toNat_shiftRight, UInt32.toNat_div, UInt32.reduceToNat]
  exact ⟨Nat.shiftRight_eq_div_pow _ 10, Nat.shiftRight_eq_div_pow _ 22⟩

namespace MetricId

variable {domain cluster item : UInt32} {id : MetricId}

/-- The fields of a metric fit into nine, twelve and ten bits. -/
def Fits (domain cluster item : UInt32) : Prop :=
  domain ≤ 511 ∧ cluster ≤ 4095 ∧ item ≤ 1023

theorem ofFields_ok_iff : ofFields domain cluster item = .ok id ↔
    Fits domain cluster item ∧ pack domain cluster item = id := by
  rw [ofFields, checkField_bind, check_ok_iff, checkField_bind, check_ok_iff, checkField_bind,
    check_ok_iff]
  simp only [Fits, and_assoc, pure, Except.pure, Except.ok.injEq, domainMax, clusterMax, itemMax]

theorem ofTable_ok_iff : ofTable domain cluster item = .ok id ↔
    Fits domain cluster item ∧ pack domain cluster item = id := by
  rw [ofTable, check_ok_iff, check_ok_iff, check_ok_iff]
  simp only [Fits, and_assoc, Except.ok.injEq, domainMax, clusterMax, itemMax]

theorem toNat_pack (h : Fits domain cluster item) : (pack domain cluster item).raw.toNat =
    domain.toNat * 4194304 + cluster.toNat * 1024 + item.toNat := by
  obtain ⟨hdomain, hcluster, hitem⟩ := h
  simp only [UInt32.le_iff_toNat_le, UInt32.reduceToNat] at hdomain hcluster hitem
  simp only [pack, UInt32.toNat_add, UInt32.toNat_mul, UInt32.reduceToNat]
  omega

theorem fields_eq_iff : id.fields = (domain, cluster, item) ↔
    id.raw.toNat / 4194304 % 512 = domain.toNat ∧ id.raw.toNat / 1024 % 4096 = cluster.toNat ∧
      id.raw.toNat % 1024 = item.toNat := by
  simp only [fields, Prod.mk.injEq, MetricId.domain, MetricId.cluster, MetricId.item,
    ← UInt32.toNat_inj, UInt32.toNat_div, UInt32.toNat_mod, UInt32.reduceToNat]

theorem pack_eq_iff (h : Fits domain cluster item) : pack domain cluster item = id ↔
    domain.toNat * 4194304 + cluster.toNat * 1024 + item.toNat = id.raw.toNat := by
  rw [← toNat_pack h, UInt32.toNat_inj]
  exact ⟨congrArg raw, fun hraw => congrArg mk hraw⟩

theorem fits_and_pack_iff : Fits domain cluster item ∧ pack domain cluster item = id ↔
    id.raw.toNat.testBit 31 = false ∧ id.fields = (domain, cluster, item) := by
  rw [and_congr_right pack_eq_iff, testBit_top, fields_eq_iff]
  simp only [Fits, UInt32.le_iff_toNat_le, UInt32.reduceToNat]
  omega

/-- Fields that fit do not overlap. -/
theorem raw_pack (h : Fits domain cluster item) :
    (pack domain cluster item).raw = domain <<< 22 ||| cluster <<< 10 ||| item := by
  refine UInt32.toNat_inj.mp ((toNat_pack h).trans ?_)
  obtain ⟨hdomain, hcluster, hitem⟩ := h
  simp only [UInt32.le_iff_toNat_le, UInt32.reduceToNat] at hdomain hcluster hitem
  have hdomain' : (domain <<< 22).toNat = domain.toNat <<< 22 :=
    toNat_shiftLeft rfl (by decide) (by rw [Nat.shiftLeft_eq, UInt32.size]; omega)
  have hcluster' : (cluster <<< 10).toNat = cluster.toNat <<< 10 :=
    toNat_shiftLeft rfl (by decide) (by rw [Nat.shiftLeft_eq, UInt32.size]; omega)
  have hhigh : domain.toNat <<< 22 ||| cluster.toNat <<< 10 =
      (domain.toNat * 4096 + cluster.toNat) <<< 10 := by
    rw [← Nat.shiftLeft_add_eq_or_of_lt (by rw [Nat.shiftLeft_eq]; omega)]
    simp only [Nat.shiftLeft_eq]
    omega
  rw [UInt32.toNat_or, UInt32.toNat_or, hdomain', hcluster', hhigh,
    ← Nat.shiftLeft_add_eq_or_of_lt (by omega), Nat.shiftLeft_eq]
  omega

theorem fields_eq_cut (id : MetricId) :
    id.fields = (id.raw >>> 22 &&& 511, id.raw >>> 10 &&& 4095, id.raw &&& 1023) := by
  simp only [and_eq_mod, shiftRight_eq_div]
  rfl

end MetricId

namespace DomainId

variable {domain serial : UInt32} {id : DomainId}

/-- The fields of an instance domain fit into nine and twenty-two bits. -/
def Fits (domain serial : UInt32) : Prop := domain ≤ 511 ∧ serial ≤ 4194303

theorem ofFields_ok_iff :
    ofFields domain serial = .ok id ↔ Fits domain serial ∧ pack domain serial = id := by
  rw [ofFields, checkField_bind, check_ok_iff, checkField_bind, check_ok_iff]
  simp only [Fits, and_assoc, pure, Except.pure, Except.ok.injEq, domainMax, serialMax]

theorem ofTable_ok_iff :
    ofTable domain serial = .ok id ↔ Fits domain serial ∧ pack domain serial = id := by
  rw [ofTable, check_ok_iff, check_ok_iff]
  simp only [Fits, and_assoc, Except.ok.injEq, domainMax, serialMax]

theorem toNat_pack (h : Fits domain serial) :
    (pack domain serial).raw.toNat = domain.toNat * 4194304 + serial.toNat := by
  obtain ⟨hdomain, hserial⟩ := h
  simp only [UInt32.le_iff_toNat_le, UInt32.reduceToNat] at hdomain hserial
  simp only [pack, UInt32.toNat_add, UInt32.toNat_mul, UInt32.reduceToNat]
  omega

theorem fields_eq_iff : id.fields = (domain, serial) ↔
    id.raw.toNat / 4194304 % 512 = domain.toNat ∧ id.raw.toNat % 4194304 = serial.toNat := by
  simp only [fields, Prod.mk.injEq, DomainId.domain, DomainId.serial, ← UInt32.toNat_inj,
    UInt32.toNat_div, UInt32.toNat_mod, UInt32.reduceToNat]

theorem pack_eq_iff (h : Fits domain serial) :
    pack domain serial = id ↔ domain.toNat * 4194304 + serial.toNat = id.raw.toNat := by
  rw [← toNat_pack h, UInt32.toNat_inj]
  exact ⟨congrArg raw, fun hraw => congrArg mk hraw⟩

theorem fits_and_pack_iff : Fits domain serial ∧ pack domain serial = id ↔
    id.raw.toNat.testBit 31 = false ∧ id.fields = (domain, serial) := by
  rw [and_congr_right pack_eq_iff, testBit_top, fields_eq_iff]
  simp only [Fits, UInt32.le_iff_toNat_le, UInt32.reduceToNat]
  omega

/-- Fields that fit do not overlap. -/
theorem raw_pack (h : Fits domain serial) :
    (pack domain serial).raw = domain <<< 22 ||| serial := by
  refine UInt32.toNat_inj.mp ((toNat_pack h).trans ?_)
  obtain ⟨hdomain, hserial⟩ := h
  simp only [UInt32.le_iff_toNat_le, UInt32.reduceToNat] at hdomain hserial
  have hdomain' : (domain <<< 22).toNat = domain.toNat <<< 22 :=
    toNat_shiftLeft rfl (by decide) (by rw [Nat.shiftLeft_eq, UInt32.size]; omega)
  rw [UInt32.toNat_or, hdomain', ← Nat.shiftLeft_add_eq_or_of_lt (by omega), Nat.shiftLeft_eq]

theorem fields_eq_cut (id : DomainId) :
    id.fields = (id.raw >>> 22 &&& 511, id.raw &&& 4194303) := by
  simp only [and_eq_mod, shiftRight_eq_div]
  rfl

end DomainId

/-- For metrics and for instance domains, whatever the fields: exactly those that fit are packed,
and all others are refused; the words are all that leave the top bit clear, and each belongs to the
fields that are read from it and to no others. -/
theorem identifiers_packed :
    Packing (fun (domain, cluster, item) => domain ≤ 511 ∧ cluster ≤ 4095 ∧ item ≤ 1023)
      (fun (domain, cluster, item) => MetricId.ofFields domain cluster item)
      (fun (domain, cluster, item) => MetricId.ofTable domain cluster item)
      MetricId.fields MetricId.raw
      (fun (domain, cluster, item) => domain <<< 22 ||| cluster <<< 10 ||| item)
      (fun word => (word >>> 22 &&& 511, word >>> 10 &&& 4095, word &&& 1023)) ∧
    Packing (fun (domain, serial) => domain ≤ 511 ∧ serial ≤ 4194303)
      (fun (domain, serial) => DomainId.ofFields domain serial)
      (fun (domain, serial) => DomainId.ofTable domain serial)
      DomainId.fields DomainId.raw
      (fun (domain, serial) => domain <<< 22 ||| serial)
      (fun word => (word >>> 22 &&& 511, word &&& 4194303)) :=
  ⟨packing (fun (domain, cluster, item) => .pack domain cluster item)
      (fun _ _ => MetricId.ofFields_ok_iff) (fun _ _ => MetricId.ofTable_ok_iff)
      (fun _ _ => MetricId.fits_and_pack_iff) (fun _ => MetricId.raw_pack) MetricId.fields_eq_cut,
    packing (fun (domain, serial) => .pack domain serial)
      (fun _ _ => DomainId.ofFields_ok_iff) (fun _ _ => DomainId.ofTable_ok_iff)
      (fun _ _ => DomainId.fits_and_pack_iff) (fun _ => DomainId.raw_pack) DomainId.fields_eq_cut⟩

/-- The largest fields fill the word up to the top bit. -/
example : (MetricId.pack 511 4095 1023).raw = 0x7fffffff ∧
    (DomainId.pack 511 4194303).raw = 0x7fffffff := by decide

end ActivityArchive
