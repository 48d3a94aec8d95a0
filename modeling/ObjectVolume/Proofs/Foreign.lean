import ObjectVolume.Proofs.Json.Members
import ObjectVolume.Proofs.Volume
/-!
# Descriptors that somebody else wrote

Descriptors are shared with other programs, which write the same members in their own way. A descriptor
is read from any object that holds its members, each of them once: in any order and with any layout, with
the characters of its texts escaped or not, and among any members that nobody knows. Mount options may be
left out or be `null` if there are none. From an object in which a member is repeated, or in which any
other is left out, no descriptor is read.
-/
namespace ObjectVolume

open Json (Entry ObjectText ReadBack ReadsValues Spells SpellsList enclosed integerText)
open Json.Source (blank_nil)

namespace Descriptor

/-- The value of a member as somebody may write it. An integer has one spelling; minus zero is none. -/
inductive Writes (d : Descriptor) : Member → List Char → Prop
  | bucket {cs} : Spells cs d.bucket.toList → Writes d .bucket (enclosed cs)
  | root {cs} : Spells cs d.root.toList → Writes d .root (enclosed cs)
  | mounter {cs} : Spells cs d.mounter.toList → Writes d .mounter (enclosed cs)
  | options {cs} : SpellsList cs d.options → Writes d .options cs
  | noOptions : d.options = [] → Writes d .options ['n', 'u', 'l', 'l']
  | capacity : Writes d .capacity (integerText d.capacity.toInt)

/-- The object holds the members of the descriptor, whatever else it holds. -/
structure WrittenIn (d : Descriptor) (o : ObjectText) : Prop where
  fits : ∀ e ∈ o.entries, ∀ k : Member, e.name = k.name → d.Writes k e.value
  once : ∀ k : Member, o.names.count k.name ≤ 1
  complete : ∀ k : Member, k.name ∉ o.names → k = .options ∧ d.options = []

/-- A member is repeated in the object, with whatever values, or left out although it is asked for. -/
def Flawed (o : ObjectText) : Prop :=
  (∃ k : Member, 1 < o.names.count k.name) ∨ ∃ k : Member, k ≠ .options ∧ k.name ∉ o.names

/-! ## Reading -/

/-- The value of a member as it is read. -/
def Holds (d : Descriptor) : (k : record.Key) → record.Value k → Prop
  | .bucket, v => v = d.bucket
  | .root, v => v = d.root
  | .mounter, v => v = d.mounter
  | .options, v => Option.getD v [] = d.options
  | .capacity, v => v = d.capacity.toInt

theorem Writes.readBack {d : Descriptor} {k : Member} {cs : List Char} (h : d.Writes k cs) :
    ∃ v, d.Holds k v ∧ ReadBack (record.read k) cs v := by
  cases h with
  | bucket h => exact ⟨d.bucket, rfl, h.readBack⟩
  | root h => exact ⟨d.root, rfl, h.readBack⟩
  | mounter h => exact ⟨d.mounter, rfl, h.readBack⟩
  | options h => exact ⟨some d.options, rfl, h.readBack_some⟩
  | noOptions h => exact ⟨none, h.symm, Json.readBack_null Json.readTextList⟩
  | capacity => exact ⟨d.capacity.toInt, rfl, readBack_capacity .compact d.capacity⟩

theorem readsValues (k : record.Key) : ReadsValues (record.read k) := by
  cases k with
  | bucket => exact Json.readsValues_text
  | root => exact Json.readsValues_text
  | mounter => exact Json.readsValues_text
  | options => exact Json.readsValues_textList.optional
  | capacity => exact Json.readsValues_integer .signed

/-- A descriptor is built from the members that hold its values. -/
theorem build_of_holds {d : Descriptor} {slots : record.Slots}
    (hslots : ∀ k v, slots k = some v → d.Holds k v)
    (hcomplete : ∀ k, slots k = none → k = .options ∧ d.options = []) :
    record.build (record.memberOf slots) = .ok d := by
  have hmember (k : record.Key) : ∃ v, d.Holds k v ∧ record.memberOf slots k = .ok v := by
    cases hk : slots k with
    | some v => exact ⟨v, hslots k v hk, Json.Record.memberOf_of_some hk⟩
    | none =>
      obtain ⟨rfl, hoptions⟩ := hcomplete k hk
      have habsent : record.absent .options = some none := rfl
      exact ⟨none, hoptions.symm, (Json.Record.memberOf_of_absent habsent).trans (by rw [hk]; rfl)⟩
  obtain ⟨bucket, hbucket, hbucket'⟩ := hmember .bucket
  obtain ⟨root, hroot, hroot'⟩ := hmember .root
  obtain ⟨mounter, hmounter, hmounter'⟩ := hmember .mounter
  obtain ⟨options, hoptions, hoptions'⟩ := hmember .options
  obtain ⟨capacity, hcapacity, hcapacity'⟩ := hmember .capacity
  have hbuild : record.build (record.memberOf slots) =
      .ok ⟨bucket, root, mounter, Option.getD options [], .ofInt capacity⟩ :=
    Json.bind_eq_ok.2 ⟨_, hbucket', Json.bind_eq_ok.2 ⟨_, hroot', Json.bind_eq_ok.2 ⟨_, hmounter',
      Json.bind_eq_ok.2 ⟨_, hoptions', Json.bind_eq_ok.2 ⟨_, hcapacity', rfl⟩⟩⟩⟩⟩
  obtain rfl : bucket = d.bucket := hbucket
  obtain rfl : root = d.root := hroot
  obtain rfl : mounter = d.mounter := hmounter
  obtain rfl : capacity = d.capacity.toInt := hcapacity
  have hoptions : Option.getD options [] = d.options := hoptions
  rw [hbuild, hoptions, Int64.ofInt_toInt]

/-- Every member is asked for. -/
theorem ok_of_build {get : (k : record.Key) → Except Json.Problem (record.Value k)} {d : Descriptor}
    (h : record.build get = .ok d) (k : record.Key) : ∃ v, get k = .ok v := by
  obtain ⟨bucket, hbucket, h⟩ := Json.bind_eq_ok.1 h
  obtain ⟨root, hroot, h⟩ := Json.bind_eq_ok.1 h
  obtain ⟨mounter, hmounter, h⟩ := Json.bind_eq_ok.1 h
  obtain ⟨options, hoptions, h⟩ := Json.bind_eq_ok.1 h
  obtain ⟨capacity, hcapacity, -⟩ := Json.bind_eq_ok.1 h
  cases k with
  | bucket => exact ⟨_, hbucket⟩
  | root => exact ⟨_, hroot⟩
  | mounter => exact ⟨_, hmounter⟩
  | options => exact ⟨_, hoptions⟩
  | capacity => exact ⟨_, hcapacity⟩

/-- What a descriptor is built from holds every member but the options. -/
theorem filled_of_build {slots : record.Slots} {d : Descriptor}
    (h : record.build (record.memberOf slots) = .ok d) {k : Member} (hk : k ≠ .options) :
    (slots k).isSome = true := by
  obtain ⟨v, hv⟩ := ok_of_build h k
  cases hslot : slots k with
  | some v => rfl
  | none =>
    have habsent : record.absent k = none := by
      cases k with
      | options => exact absurd rfl hk
      | _ => rfl
    rw [Json.Record.memberOf_of_none hslot habsent] at hv
    cases hv

theorem decodeBytes_of_writtenIn {d : Descriptor} {o : ObjectText} (h : d.WrittenIn o) :
    record.decodeBytes o.bytes = .ok d := by
  refine Json.Record.decodeBytes_of_values find?_name (P := d.Holds)
    (fun e he k hk => (h.fits e he k hk).readBack) h.once fun slots hslots hfilled => ?_
  refine build_of_holds hslots fun k hk => h.complete k fun hmem => ?_
  have hsome : (slots k).isSome = true := (hfilled k).2 hmem
  rw [hk] at hsome
  cases hsome

theorem decodeBytes_of_flawed {o : ObjectText} (h : Flawed o) :
    ∃ text, record.decodeBytes o.bytes = .error text := by
  cases hdecode : record.decodeBytes o.bytes with
  | error text => exact ⟨text, rfl⟩
  | ok d =>
    obtain ⟨slots, hcount, hbuild⟩ := Json.Record.of_decodeBytes find?_name readsValues hdecode
    rcases h with ⟨k, hrepeated⟩ | ⟨k, hk, hmissing⟩
    · have honce : o.names.count k.name = (slots k).isSome.toNat := hcount k
      have hle := Bool.toNat_le (slots k).isSome
      omega
    · have hzero : o.names.count k.name = (slots k).isSome.toNat := hcount k
      rw [filled_of_build hbuild hk, List.count_eq_zero_of_not_mem hmissing] at hzero
      cases hzero

end Descriptor

namespace Session

open Store (Memory memory)

/-- **Descriptors of other writers.** An object that holds the members of a descriptor is read as that
descriptor, and one in which a member is repeated, or left out although it is asked for, is refused. The
same is answered to a client that reads the object from the store, and nothing is changed. -/
theorem readDescriptor_of_objectText (o : ObjectText) :
    (∀ d : Descriptor, d.WrittenIn o → Descriptor.record.decodeBytes o.bytes = .ok d) ∧
    (Descriptor.Flawed o → ∃ text, Descriptor.record.decodeBytes o.bytes = .error text) ∧
    ∀ (s : Session Memory) (alarm : Option Moment) (bucket root : String),
      s.client.token.isCancelled = false →
      s.store.object? bucket (Descriptor.key root) = some o.bytes →
      (∀ d : Descriptor, d.WrittenIn o →
        s.run alarm (Volume.readDescriptor memory bucket root) = (.done d, s)) ∧
      (Descriptor.Flawed o → ∃ text,
        s.run alarm (Volume.readDescriptor memory bucket root) =
          (.failed (.serialization text), s)) := by
  refine ⟨fun d => Descriptor.decodeBytes_of_writtenIn, Descriptor.decodeBytes_of_flawed,
    fun s alarm bucket root live stored => ⟨fun d hd => ?_, fun hflawed => ?_⟩⟩
  · unfold run
    rw [Volume.outcome_readDescriptor live, stored]
    simp only [Descriptor.decodeBytes_of_writtenIn hd, Except.mapError]
  · obtain ⟨text, hdecode⟩ := Descriptor.decodeBytes_of_flawed hflawed
    refine ⟨text, ?_⟩
    unfold run
    rw [Volume.outcome_readDescriptor live, stored]
    simp only [hdecode, Except.mapError]

/-! ### A descriptor among notes -/

def annotatedVolume : Descriptor where
  bucket := "data"
  root := "vol"
  mounter := "s3fs"
  capacity := 7

/-- A member with its name as this library writes it. -/
def member (name : String) {value : List Char} (h : Json.WellFormed .value value) : Entry where
  name
  spelling := name.toList.flatMap Json.escape
  value
  spells := Json.spells_escape name
  wellFormed := h

theorem wellFormed_text {cs : List Char} {t : String} (h : Spells cs t.toList) :
    Json.WellFormed .value (enclosed cs) :=
  .text h.isString

theorem isNumeral_seven : Json.IsNumeral ['7'] :=
  ⟨['7'], [], [], ⟨⟨by decide, fun _ hc => List.mem_singleton.1 hc ▸ rfl⟩, by decide⟩, .inl rfl,
    .inl rfl, rfl⟩

/-- The root with its first letter escaped. -/
theorem spells_root : Spells (['\\', 'u', '0', '0', '7', '6'] ++ "ol".toList.flatMap Json.escape)
    annotatedVolume.root.toList :=
  .unicode (n := 0x76) (by decide) (by decide) (by decide) (Json.spells_escape "ol")

/-- The volume is described in another order, and notes are taken twice. -/
def annotated : ObjectText where
  entries :=
    [member "Notes" (.list (.element blank_nil (.numeral isNumeral_seven) blank_nil
        (.lastElement (by decide : Json.Source.Blank [' ']) .null blank_nil))),
      { member "CapacityBytes" (.numeral isNumeral_seven) with
        lead := ['\n']
        lead_blank := by decide },
      member "MountOptions" .null,
      member "Mounter" (wellFormed_text (Json.spells_escape "s3fs")),
      member "Notes" (.emptyObject blank_nil),
      member "Prefix" (wellFormed_text spells_root),
      member "Name" (wellFormed_text (Json.spells_escape "data"))]
  after := ['\n']

/-- The same, with the name once more. -/
def repeated : ObjectText where
  entries := member "Name" (wellFormed_text (Json.spells_escape "data")) :: annotated.entries

theorem writtenIn_annotated : annotatedVolume.WrittenIn annotated where
  fits := by
    have hcapacity : integerText annotatedVolume.capacity.toInt = ['7'] := by decide
    intro e he k hk
    simp only [annotated, List.mem_cons, List.not_mem_nil, or_false] at he
    rcases he with rfl | rfl | rfl | rfl | rfl | rfl | rfl
    · cases k <;> exact absurd hk (by decide)
    · obtain rfl : k = .capacity := by revert hk; cases k <;> decide
      have hwrites : annotatedVolume.Writes .capacity (integerText annotatedVolume.capacity.toInt) :=
        .capacity
      rwa [hcapacity] at hwrites
    · obtain rfl : k = .options := by revert hk; cases k <;> decide
      exact .noOptions rfl
    · obtain rfl : k = .mounter := by revert hk; cases k <;> decide
      exact .mounter (Json.spells_escape "s3fs")
    · cases k <;> exact absurd hk (by decide)
    · obtain rfl : k = .root := by revert hk; cases k <;> decide
      exact .root spells_root
    · obtain rfl : k = .bucket := by revert hk; cases k <;> decide
      exact .bucket (Json.spells_escape "data")
  once k := by cases k <;> decide
  complete k hk := by cases k <;> exact absurd (by decide) hk

/-- A client of a store that holds the bytes where the volume is described. -/
def described (data : ByteArray) : Session Memory where
  store := (newSession.store.put "data" (Descriptor.key "vol") data).2
  client := newSession.client

theorem object?_described (data : ByteArray) :
    (described data).store.object? "data" (Descriptor.key "vol") = some data := by
  have hput : newSession.store.put "data" (Descriptor.key "vol") data =
      (.ok (), (described data).store) := rfl
  rw [Memory.object?_put hput, if_pos ⟨rfl, rfl⟩]

theorem readDescriptor_of_objectText_annotated :
    (described annotated.bytes).run none (Volume.readDescriptor memory "data" "vol") =
      (.done annotatedVolume, described annotated.bytes) ∧
    ∃ text, (described repeated.bytes).run none (Volume.readDescriptor memory "data" "vol") =
      (.failed (.serialization text), described repeated.bytes) :=
  ⟨((readDescriptor_of_objectText annotated).2.2 _ none "data" "vol" rfl
      (object?_described _)).1 _ writtenIn_annotated,
    ((readDescriptor_of_objectText repeated).2.2 _ none "data" "vol" rfl
      (object?_described _)).2 (.inl ⟨.bucket, by decide⟩)⟩

end Session

end ObjectVolume
