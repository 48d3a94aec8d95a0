import ObjectVolume.Proofs.Federation.Resolution
import ObjectVolume.Proofs.Json.Members
import ObjectVolume.Proofs.RoundTrip
import Mathlib.Data.Finmap
/-!
# Secrets in maps and in JSON

A secret comes as a map of texts or as the JSON object of such a map, with any other entries among its
own and in any order. Both are read as the same secret (`ofEntries`); but a map whose endpoint is empty is
refused, while an object is refused only if it has no endpoint at all. A role that is there but empty
makes no difference to what the secret stands for.
-/
namespace ObjectVolume

open Json (Entry ObjectText ReadBack ReadsValues Spells Value enclosed quoted)

/-! ## Objects whose values are texts -/

namespace Json

/-- A member with a text, as this library writes it. -/
def Entry.ofText (m : String × String) : Entry where
  name := m.1
  spelling := m.1.toList.flatMap escape
  value := enclosed (m.2.toList.flatMap escape)
  spells := spells_escape m.1
  wellFormed := .text (spells_escape m.2).isString
  lead_blank := Source.blank_nil
  gap_blank := Source.blank_nil
  pad_blank := Source.blank_nil
  trail_blank := Source.blank_nil

/-- The object of some texts with their names, as this library writes it. -/
def ObjectText.ofTexts (ms : List (String × String)) : ObjectText where
  entries := ms.map Entry.ofText
  before_blank := Source.blank_nil
  close_blank := Source.blank_nil
  after_blank := Source.blank_nil

theorem ObjectText.text_ofTexts (ms : List (String × String)) :
    (ofTexts ms).text = (Value.object (ms.map fun m => (m.1, .text m.2))).compact := by
  have hentries : (ms.map Entry.ofText).map Entry.text =
      (ms.map fun m => (m.1, Value.text m.2)).map fun m => quoted m.1 ++ ':' :: m.2.compact := by
    simp [Entry.ofText, Entry.text, memberText, quoted_eq, Value.compact]
  simp [ofTexts, ObjectText.text, Value.compact, compactMembers_eq, hentries]

end Json

namespace Secret

/-! ## Maps -/

/-- The secret with the entries of a map and an endpoint. Other entries than the endpoint may be left
out. -/
def ofEntries (entry : String → Option String) (endpoint : String) : Secret where
  accessKeyId := (entry Member.accessKeyId.name).getD ""
  secretAccessKey := (entry Member.secretAccessKey.name).getD ""
  region := (entry Member.region.name).getD ""
  endpoint
  roleArn := entry Member.roleArn.name

variable {entry : String → Option String} {endpoint : String}

theorem ofMap_of_some (h : entry Member.endpoint.name = some endpoint) (hne : endpoint ≠ "") :
    ofMap entry = .ok (ofEntries entry endpoint) := by
  have hfilter : (some endpoint).filter (!·.isEmpty) = some endpoint := by simp [hne]
  simp only [ofMap, Member.entryName_eq_name, h, hfilter, ofEntries]

theorem ofMap_of_missing
    (h : entry Member.endpoint.name = none ∨ entry Member.endpoint.name = some "") :
    ofMap entry = .error .noEndpointEntry := by
  have hfilter : (entry Member.endpoint.name).filter (!·.isEmpty) = none := by
    rcases h with h | h <;> rw [h] <;> decide
  simp only [ofMap, Member.entryName_eq_name, hfilter]

/-- A map is read if its endpoint is there and not empty. -/
theorem ofMap_cases (entry : String → Option String) :
    (∃ e, entry Member.endpoint.name = some e ∧ e ≠ "" ∧ ofMap entry = .ok (ofEntries entry e)) ∨
    (entry Member.endpoint.name = none ∨ entry Member.endpoint.name = some "") ∧
      ofMap entry = .error .noEndpointEntry := by
  cases h : entry Member.endpoint.name with
  | none => exact .inr ⟨.inl rfl, ofMap_of_missing (.inl h)⟩
  | some e =>
    by_cases he : e = ""
    · exact .inr ⟨.inr (congrArg some he), ofMap_of_missing (.inr (he ▸ h))⟩
    · exact .inl ⟨e, rfl, he, ofMap_of_some h he⟩

/-! ## Objects -/

variable {m : Finmap fun _ : String => String} {o : ObjectText}

/-- The object holds the entries of the map, each of them once, and nothing else. -/
structure HoldsMap (m : Finmap fun _ : String => String) (o : ObjectText) : Prop where
  fits : ∀ e ∈ o.entries, ∃ t cs, m.lookup e.name = some t ∧ e.value = enclosed cs ∧ Spells cs t.toList
  once : o.names.Nodup
  complete : ∀ name ∈ m, name ∈ o.names

/-- A map that is listed is held by the object that is written of the list. -/
theorem holdsMap_ofTexts {ms : List (String × String)} (hnodup : (ms.map (·.1)).Nodup)
    (hms : ∀ name t, m.lookup name = some t ↔ (name, t) ∈ ms) : HoldsMap m (.ofTexts ms) where
  fits e he := by
    obtain ⟨⟨name, t⟩, hmem, rfl⟩ := List.mem_map.1 he
    exact ⟨t, _, (hms name t).2 hmem, rfl, Json.spells_escape t⟩
  once := by
    have hnames : (ObjectText.ofTexts ms).names = ms.map (·.1) := List.map_map
    rwa [hnames]
  complete name hname := by
    obtain ⟨t, ht⟩ := Finmap.mem_iff.1 hname
    exact List.mem_map.2 ⟨_, List.mem_map_of_mem ((hms name t).1 ht), rfl⟩

/-- What is read of the entries of a map. -/
def slotsOf (entry : String → Option String) : record.Slots
  | .accessKeyId => entry Member.accessKeyId.name
  | .secretAccessKey => entry Member.secretAccessKey.name
  | .region => entry Member.region.name
  | .endpoint => entry Member.endpoint.name
  | .roleArn => (entry Member.roleArn.name).map some

theorem slotsOf_eq_none_iff (k : Member) : slotsOf entry k = none ↔ entry k.name = none := by
  cases k with
  | roleArn => exact Option.map_eq_none_iff
  | _ => exact Iff.rfl

theorem readBack_slotsOf {k : Member} {t : String} {cs : List Char} (h : entry k.name = some t)
    (hspells : Spells cs t.toList) :
    ∃ v, slotsOf entry k = some v ∧ ReadBack (record.read k) (enclosed cs) v := by
  cases k with
  | roleArn => exact ⟨some t, congrArg (Option.map some) h, hspells.readBack.optional rfl (by decide)⟩
  | _ => exact ⟨t, h, hspells.readBack⟩

theorem readsValues (k : record.Key) : ReadsValues (record.read k) := by
  cases k with
  | roleArn => exact Json.readsValues_text.optional
  | _ => exact Json.readsValues_text

/-- A secret is built from the entries of a map that has an endpoint. -/
theorem build_slotsOf (h : entry Member.endpoint.name = some endpoint) :
    record.build (record.memberOf (slotsOf entry)) = .ok (ofEntries entry endpoint) := by
  have hendpoint : record.memberOf (slotsOf entry) .endpoint = .ok endpoint :=
    Json.Record.memberOf_of_some h
  have hrole : record.memberOf (slotsOf entry) .roleArn = .ok (entry Member.roleArn.name) := by
    refine (Json.Record.memberOf_of_absent (v := none) rfl).trans ?_
    change .ok (((entry Member.roleArn.name).map some).getD none) = Except.ok _
    cases entry Member.roleArn.name <;> rfl
  exact Json.bind_eq_ok.2 ⟨_, Json.Record.memberOf_of_absent (v := "") rfl, Json.bind_eq_ok.2
    ⟨_, Json.Record.memberOf_of_absent (v := "") rfl, Json.bind_eq_ok.2
      ⟨_, Json.Record.memberOf_of_absent (v := "") rfl, Json.bind_eq_ok.2
        ⟨_, hendpoint, Json.bind_eq_ok.2 ⟨_, hrole, rfl⟩⟩⟩⟩⟩

/-- Without an endpoint no secret is built. -/
theorem endpoint_of_build {slots : record.Slots} {s : Secret}
    (h : record.build (record.memberOf slots) = .ok s) : slots .endpoint ≠ none := by
  obtain ⟨_, -, h⟩ := Json.bind_eq_ok.1 h
  obtain ⟨_, -, h⟩ := Json.bind_eq_ok.1 h
  obtain ⟨_, -, h⟩ := Json.bind_eq_ok.1 h
  obtain ⟨_, hendpoint, -⟩ := Json.bind_eq_ok.1 h
  intro hnone
  have hmissing : record.memberOf slots .endpoint = .error (.missingMember Member.endpoint.name) :=
    Json.Record.memberOf_of_none hnone rfl
  cases hmissing.symm.trans hendpoint

theorem HoldsMap.mem_names_iff (h : HoldsMap m o) (name : String) :
    name ∈ o.names ↔ m.lookup name ≠ none := by
  rw [Ne, Finmap.lookup_eq_none, not_not]
  refine ⟨fun hname => ?_, h.complete name⟩
  obtain ⟨e, he, rfl⟩ := List.mem_map.1 hname
  obtain ⟨t, -, ht, -⟩ := h.fits e he
  exact Finmap.mem_of_lookup_eq_some ht

theorem HoldsMap.decodeBytes (h : HoldsMap m o) (hendpoint : m.lookup Member.endpoint.name = some endpoint) :
    record.decodeBytes o.bytes = .ok (ofEntries m.lookup endpoint) := by
  refine Json.Record.decodeBytes_of_values find?_name (P := fun k v => slotsOf m.lookup k = some v)
    (fun e he k hk => ?_) (fun k => List.nodup_iff_count_le_one.1 h.once _)
    fun slots hslots hfilled => ?_
  · obtain ⟨t, cs, ht, hvalue, hspells⟩ := h.fits e he
    rw [hk] at ht
    rw [hvalue]
    exact readBack_slotsOf ht hspells
  · have heq : slots = slotsOf m.lookup := by
      funext k
      cases hk : slots k with
      | some v => exact (hslots k v hk).symm
      | none =>
        have hname : record.name k ∉ o.names := by simp [← hfilled, hk]
        rw [h.mem_names_iff, not_not] at hname
        exact (slotsOf_eq_none_iff k |>.2 hname).symm
    rw [heq]
    exact build_slotsOf hendpoint

/-- Only the endpoint is asked for. -/
theorem HoldsMap.decodeBytes_eq_error_iff (h : HoldsMap m o) :
    (∃ text, record.decodeBytes o.bytes = .error text) ↔ m.lookup Member.endpoint.name = none := by
  constructor
  · rintro ⟨text, htext⟩
    cases hendpoint : m.lookup Member.endpoint.name with
    | none => rfl
    | some endpoint =>
      rw [h.decodeBytes hendpoint] at htext
      cases htext
  · intro hnone
    cases hdecode : record.decodeBytes o.bytes with
    | error text => exact ⟨text, rfl⟩
    | ok s =>
      obtain ⟨slots, hcount, hbuild⟩ := Json.Record.of_decodeBytes find?_name readsValues hdecode
      have hname : Member.endpoint.name ∉ o.names := by simp [h.mem_names_iff, hnone]
      have hempty : o.names.count Member.endpoint.name = (slots .endpoint).isSome.toNat :=
        hcount .endpoint
      rw [List.count_eq_zero_of_not_mem hname] at hempty
      cases hslot : slots .endpoint with
      | none => exact absurd hslot (endpoint_of_build hbuild)
      | some v => simp [hslot] at hempty

/-! ## Both ways -/

section Role

open Federation (Service TokenFile resolve configFor)

variable (service : Service) (tokenFile : Option TokenFile)

/-- Entries without a role, or with an empty one, stand for the keys among them. -/
theorem resolve_ofEntries
    (hrole : entry Member.roleArn.name = none ∨ entry Member.roleArn.name = some "") :
    resolve service tokenFile (ofEntries entry endpoint) =
      ⟨.ok (configFor { ofEntries entry endpoint with roleArn := none }
        ⟨(entry Member.accessKeyId.name).getD "", (entry Member.secretAccessKey.name).getD "", none⟩), []⟩ :=
  Federation.resolve_of_no_role service tokenFile (role?_eq_none_iff.2 hrole)

/-- A map with an empty role stands for the same as the map without a role. -/
theorem map_resolve_erase (hrole : m.lookup Member.roleArn.name = some "") :
    (ofMap m.lookup).map (resolve service tokenFile) =
      (ofMap (m.erase Member.roleArn.name).lookup).map (resolve service tokenFile) := by
  have hkept {k : Member} (hk : k.name ≠ Member.roleArn.name) :
      (m.erase Member.roleArn.name).lookup k.name = m.lookup k.name :=
    Finmap.lookup_erase_ne hk
  have hendpoint := hkept (k := .endpoint) (by decide)
  rcases ofMap_cases m.lookup with ⟨e, he, hne, hread⟩ | ⟨hmissing, hread⟩
  · have hread' : ofMap (m.erase Member.roleArn.name).lookup = .ok (ofEntries _ e) :=
      ofMap_of_some (hendpoint.trans he) hne
    simp only [hread, hread', Except.map]
    rw [resolve_ofEntries service tokenFile (.inr hrole),
      resolve_ofEntries service tokenFile (.inl (Finmap.lookup_erase _ m))]
    simp only [ofEntries, hkept (k := .accessKeyId) (by decide), hkept (k := .secretAccessKey) (by decide),
      hkept (k := .region) (by decide)]
  · rw [hread, ofMap_of_missing (by rwa [hendpoint])]

end Role

/-- **Maps and objects.** A map is refused exactly if its endpoint is left out or empty. Otherwise it is
read as the secret that any object with the same entries is read as, and such an object is refused exactly
if the endpoint is left out; the text that is written of the entries, in whatever order they are listed,
is one of these objects. With an empty role, a map stands for the same configuration as without one, and
the token service is not asked. -/
theorem ofMap_agrees (m : Finmap fun _ : String => String) :
    (∀ p, ofMap m.lookup = .error p ↔
      p = .noEndpointEntry ∧ (m.lookup "endpoint" = none ∨ m.lookup "endpoint" = some "")) ∧
    (∀ o, HoldsMap m o →
      (∀ s, ofMap m.lookup = .ok s → record.decodeBytes o.bytes = .ok s) ∧
      ((∃ text, record.decodeBytes o.bytes = .error text) ↔ m.lookup "endpoint" = none)) ∧
    (∀ ms : List (String × String), (ms.map (·.1)).Nodup →
      (∀ name t, m.lookup name = some t ↔ (name, t) ∈ ms) →
      HoldsMap m (.ofTexts ms) ∧ (ObjectText.ofTexts ms).bytes =
        (String.ofList (Value.object (ms.map fun e => (e.1, .text e.2))).compact).toUTF8) ∧
    (m.lookup "iamRoleArn" = some "" →
      ∀ (service : Federation.Service) (tokenFile : Option Federation.TokenFile),
      (ofMap m.lookup).map (Federation.resolve service tokenFile) =
        (ofMap (m.erase "iamRoleArn").lookup).map (Federation.resolve service tokenFile) ∧
      ∀ s, ofMap m.lookup = .ok s → (Federation.resolve service tokenFile s).requests = [] ∧
        ∃ c, (Federation.resolve service tokenFile s).result = .ok c) := by
  have hread := ofMap_cases m.lookup
  refine ⟨fun p => ?_, fun o ho => ⟨fun s hs => ?_, ho.decodeBytes_eq_error_iff⟩,
    fun ms hnodup hms => ⟨holdsMap_ofTexts hnodup hms, ?_⟩,
    fun hrole service tokenFile => ⟨map_resolve_erase service tokenFile hrole, fun s hs => ?_⟩⟩
  · rcases hread with ⟨e, he, hne, hread⟩ | ⟨hmissing, hread⟩
    · have he : m.lookup "endpoint" = some e := he
      simp [hread, he, hne]
    · rw [hread]
      exact ⟨fun hp => ⟨(Except.error.inj hp).symm, hmissing⟩, fun hp => by rw [hp.1]⟩
  · rcases hread with ⟨e, he, -, hread⟩ | ⟨-, hread⟩
    · obtain rfl := Except.ok.inj (hread.symm.trans hs)
      exact ho.decodeBytes he
    · cases hread.symm.trans hs
  · rw [ObjectText.bytes, ObjectText.text_ofTexts]
  · rcases hread with ⟨e, he, -, hread⟩ | ⟨-, hread⟩
    · obtain rfl := Except.ok.inj (hread.symm.trans hs)
      rw [resolve_ofEntries service tokenFile (.inr hrole)]
      exact ⟨rfl, _, rfl⟩
    · cases hread.symm.trans hs

/-- The entries of a secret with an empty role, and a note that is no part of it. -/
def notedEntries : List (String × String) :=
  [("note", "\n"), ("iamRoleArn", ""), ("endpoint", "http://minio:9000"), ("accessKeyID", "AKIA")]

def notedMap : Finmap fun _ : String => String :=
  (notedEntries.map fun e => (⟨e.1, e.2⟩ : Sigma fun _ : String => String)).toFinmap

theorem lookup_notedMap_iff (name t : String) :
    notedMap.lookup name = some t ↔ (name, t) ∈ notedEntries.reverse := by
  have hnodup : (notedEntries.map fun e => (⟨e.1, e.2⟩ : Sigma fun _ : String => String)).keys.Nodup := by
    decide
  rw [notedMap, Finmap.dlookup_list_toFinmap, ← Option.mem_def, List.mem_dlookup_iff hnodup,
    List.mem_map, List.mem_reverse]
  constructor
  · rintro ⟨e, he, ⟨⟩⟩
    exact he
  · intro h
    exact ⟨(name, t), h, rfl⟩

/-- The entries, as a map and as an object in the reverse order. -/
theorem ofMap_agrees_noted :
    ofMap notedMap.lookup = .ok ⟨"AKIA", "", "", "http://minio:9000", some ""⟩ ∧
    record.decodeBytes (ObjectText.ofTexts notedEntries.reverse).bytes =
      .ok ⟨"AKIA", "", "", "http://minio:9000", some ""⟩ ∧
    (Federation.resolve Federation.generousService none
      ⟨"AKIA", "", "", "http://minio:9000", some ""⟩).requests = [] := by
  have hread : ofMap notedMap.lookup = .ok ⟨"AKIA", "", "", "http://minio:9000", some ""⟩ := rfl
  have hrole : notedMap.lookup "iamRoleArn" = some "" := rfl
  obtain ⟨-, hobject, hlisted, hresolve⟩ := ofMap_agrees notedMap
  have hholds := (hlisted notedEntries.reverse (by decide) lookup_notedMap_iff).1
  exact ⟨hread, (hobject _ hholds).1 _ hread, ((hresolve hrole _ none).2 _ hread).1⟩

end Secret

end ObjectVolume
