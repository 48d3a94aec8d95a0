import ObjectVolume.Proofs.Client
import ObjectVolume.Proofs.Text.Quoted
import Mathlib.Data.List.Basic
/-!
# How much of an access key is shown

Of a long key its first four characters are shown, of a short one nothing but its length; in both cases
other keys look the same, so that nobody can tell which one it is (`Credentials.partly_hidden`). But what
is short is decided in bytes and what is shown is counted in characters: a key of at most four characters
that takes more than four bytes is neither hidden nor cut, it is shown whole (`Credentials.mask_of_wide`).
-/
namespace ObjectVolume

/-! ## Masks -/

namespace Credentials

variable {key key' : String}

theorem mask_of_size_le (h : key.utf8ByteSize ≤ 4) :
    mask key = String.ofList (List.replicate key.utf8ByteSize '*') :=
  if_pos h

/-- The mask of a key with more than four bytes, but no more than four characters, is the key itself and
three asterisks. -/
theorem mask_of_wide (hlength : key.length ≤ 4) (hsize : 4 < key.utf8ByteSize) :
    mask key = key ++ "***" := by
  have hwhole : key.toList.take 4 = key.toList := List.take_of_length_le hlength
  rw [mask, if_neg (by omega), hwhole, String.ofList_append, String.ofList_toList]

theorem utf8ByteSize_le (s : String) : s.utf8ByteSize ≤ 4 * s.length := by
  induction s using String.push_induction with
  | empty => simp
  | push s c ih =>
    have hsize := c.utf8Size_le_four
    simp only [String.length_push, String.utf8ByteSize_push]
    omega

/-- Whoever sees the mask of such a key of less than four characters knows the key. -/
theorem eq_of_mask_eq (hlength : key.length < 4) (hsize : 4 < key.utf8ByteSize)
    (h : mask key' = mask key) : key' = key := by
  rw [mask_of_wide (Nat.le_of_lt hlength) hsize] at h
  have hcount := congrArg String.length h
  have hbytes := utf8ByteSize_le key
  rw [String.length_append] at hcount
  change _ = _ + 3 at hcount
  by_cases hsize' : key'.utf8ByteSize ≤ 4
  · rw [mask_of_size_le hsize', String.length_ofList, List.length_replicate] at hcount
    omega
  by_cases hlength' : key'.length ≤ 4
  · rw [mask_of_wide hlength' (by omega)] at h
    exact (String.append_left_inj _).1 h
  · rw [mask_of_lt_length (by omega), String.length_ofList, List.length_append, List.length_take,
      String.length_toList] at hcount
    change min 4 _ + 3 = _ at hcount
    omega

theorem mask_eq_of_take (h : 4 < key.length) (h' : 4 < key'.length)
    (htake : key'.toList.take 4 = key.toList.take 4) : mask key' = mask key := by
  rw [mask_of_lt_length h, mask_of_lt_length h', htake]

theorem size_replicate (n : Nat) {c : Char} (hc : c.utf8Size = 1) :
    (String.ofList (List.replicate n c)).utf8ByteSize = n := by
  induction n with
  | zero => rfl
  | succ n ih =>
    rw [List.replicate_succ', String.ofList_append, String.utf8ByteSize_append, ih,
      ← String.singleton_eq_ofList, String.utf8ByteSize_singleton, hc]

/-- A key of as many bytes as another. -/
theorem exists_same_size (hne : key ≠ "") :
    ∃ other, other ≠ key ∧ other.utf8ByteSize = key.utf8ByteSize := by
  set n := key.utf8ByteSize with hn
  have ha := size_replicate n (c := 'a') (by decide)
  have hb := size_replicate n (c := 'b') (by decide)
  by_cases h : String.ofList (List.replicate n 'a') = key
  · refine ⟨_, fun h' => ?_, hb⟩
    have hzero : n ≠ 0 := by simpa [hn, String.utf8ByteSize_eq_zero_iff] using hne
    have hsame := String.ofList_inj.1 (h.trans h'.symm)
    exact absurd ((List.replicate_right_inj hzero).1 hsame) (by decide)
  · exact ⟨_, h, ha⟩

/-- **Other keys look the same.** -/
theorem exists_mask_eq (hne : key ≠ "") (hnarrow : key.length ≤ 4 → key.utf8ByteSize ≤ 4) :
    ∃ other, other ≠ key ∧ other ≠ "" ∧ mask other = mask key := by
  by_cases hsize : key.utf8ByteSize ≤ 4
  · obtain ⟨other, hother, hsame⟩ := exists_same_size hne
    refine ⟨other, hother, fun hempty => hne ?_, ?_⟩
    · rw [← String.utf8ByteSize_eq_zero_iff, ← hsame, hempty]
      rfl
    · rw [mask_of_size_le hsize, mask_of_size_le (hsame ▸ hsize), hsame]
  · have hlength : 4 < key.length := by
      by_contra hle
      exact hsize (hnarrow (by omega))
    have hlonger : (key.push 'x').length = key.length + 1 := String.length_push 'x'
    refine ⟨key.push 'x', fun heq => ?_, ?_, mask_eq_of_take hlength (by omega) ?_⟩
    · rw [heq] at hlonger
      omega
    · simp
    · rw [String.toList_push, List.take_append_of_le_length (Nat.le_of_lt hlength)]

end Credentials

/-! ## What is shown -/

/-- What is shown of credentials depends on the mask of their access key. -/
theorem Credentials.labelled_of_mask {c : Credentials} {other : String}
    (h : mask other = mask c.accessKey) : { c with accessKey := other }.labelled = c.labelled := by
  simp only [labelled, maskedKey, h]
  rfl

/-- The configuration with another access key. -/
def Config.withAccessKey (c : Config) (key : String) : Config :=
  { c with credentials := { c.credentials with accessKey := key } }

namespace Client

variable {c : Config} {k : Client} {other : String}

theorem labelled_of_mask (t : Token)
    (h : Credentials.mask other = Credentials.mask c.credentials.accessKey) :
    (⟨c.withAccessKey other, t⟩ : Client).labelled = (⟨c, t⟩ : Client).labelled := by
  simp only [labelled, Credentials.maskedKey, Config.withAccessKey, h]
  rfl

/-- One access key is as good as another to be accepted. -/
theorem connect_withAccessKey (h : connect c = .ok k) (hother : other ≠ "") :
    connect (c.withAccessKey other) = .ok ⟨c.withAccessKey other, .fresh⟩ := by
  obtain ⟨hvalid, haddress, -⟩ := connect_eq_ok_iff.1 h
  obtain ⟨hurl, -, hsecret, hparallelism⟩ := Config.validate_eq_ok_iff.1 hvalid
  have hvalid' : (c.withAccessKey other).validate = .ok () :=
    Config.validate_eq_ok_iff.2 ⟨hurl, hother, hsecret, hparallelism⟩
  exact connect_eq_ok_iff.2 ⟨hvalid', haddress, rfl⟩

end Client

namespace Credentials

/-- **Access keys are hidden in part**, unless they take more than four bytes for at most four characters.
A key of at most four characters is shown as asterisks alone, any other as its first four characters and
asterisks, whatever comes after those. So whatever is shown of credentials or of a client is also shown of
others with another access key, which would be accepted just as well. -/
theorem partly_hidden (key : String) (hnarrow : key.length ≤ 4 → key.utf8ByteSize ≤ 4) :
    (key.length ≤ 4 → ∀ c ∈ (mask key).toList, c = '*') ∧
    (4 < key.length → mask key = String.ofList (key.toList.take 4) ++ "***" ∧
      ∀ key' : String, 4 < key'.length → key'.toList.take 4 = key.toList.take 4 → mask key' = mask key) ∧
    (key ≠ "" → ∃ other, other ≠ key ∧ mask other = mask key ∧
      (∀ c : Credentials, c.accessKey = key →
        { c with accessKey := other }.labelled.compact = c.labelled.compact ∧
        { c with accessKey := other }.labelled.indented = c.labelled.indented) ∧
      ∀ (c : Config) (k : Client), Client.connect c = .ok k → c.credentials.accessKey = key →
        Client.connect (c.withAccessKey other) = .ok ⟨c.withAccessKey other, .fresh⟩ ∧ ∀ t : Token,
          (⟨c.withAccessKey other, t⟩ : Client).labelled.compact =
            { k with token := t }.labelled.compact ∧
          (⟨c.withAccessKey other, t⟩ : Client).labelled.indented =
            { k with token := t }.labelled.indented) := by
  refine ⟨fun hlength c hc => ?_, fun hlength => ⟨?_, fun key' hlength' htake => ?_⟩, fun hne => ?_⟩
  · rw [mask_of_size_le (hnarrow hlength), String.toList_ofList] at hc
    exact (List.mem_replicate.1 hc).2
  · rw [mask_of_lt_length hlength, String.ofList_append]
  · exact mask_eq_of_take hlength hlength' htake
  · obtain ⟨other, hother, hnonempty, hmask⟩ := exists_mask_eq hne hnarrow
    refine ⟨other, hother, hmask, ?_, ?_⟩
    · rintro c rfl
      rw [labelled_of_mask hmask]
      exact ⟨rfl, rfl⟩
    · rintro c k hk rfl
      refine ⟨Client.connect_withAccessKey hk hnonempty, fun t => ?_⟩
      rw [Client.labelled_of_mask t hmask, ← Client.config_of_connect hk]
      exact ⟨rfl, rfl⟩

/-- A configuration whose access key takes seven bytes for five characters. -/
def accented : Config := Client.login.withAccessKey "ñandú"

theorem partly_hidden_accented :
    mask "ñandú" = "ñand***" ∧ mask "ñandutí" = mask "ñandú" ∧ ∃ other, other ≠ "ñandú" ∧
      Client.connect (accented.withAccessKey other) = .ok ⟨accented.withAccessKey other, .fresh⟩ ∧
      (⟨accented.withAccessKey other, .fresh⟩ : Client).labelled.indented =
        (⟨accented, .fresh⟩ : Client).labelled.indented := by
  have hconnect : Client.connect accented = .ok ⟨accented, .fresh⟩ := by decide +kernel
  obtain ⟨-, hlong, hother⟩ := partly_hidden "ñandú" (by decide)
  obtain ⟨hmask, hstart⟩ := hlong (by decide)
  obtain ⟨other, hne, -, -, hclient⟩ := hother (by decide)
  obtain ⟨hconnect', hshown⟩ := hclient accented _ hconnect rfl
  exact ⟨hmask.trans (by decide), hstart "ñandutí" (by decide) (by decide), other, hne, hconnect',
    (hshown .fresh).2⟩

/-- A key of three characters in five bytes is not hidden: it can be read off from what is shown. -/
theorem wide_key_shown : "ñño".length ≤ 4 ∧ ¬(∀ c ∈ (mask "ñño").toList, c = '*') ∧
    (∀ key, mask key = mask "ñño" → key = "ñño") ∧
    (⟨"ñño", "secret", none⟩ : Credentials).labelled.compact =
      "S3Credentials \x7b access_key: \"ñño***\", temporary: false, .. \x7d" := by
  have hmask : mask "ñño" = "ñño***" := by decide
  have hquoted : Text.quote "ñño***" = "\"ñño***\"" := Text.quote_of_isPlain (by decide)
  refine ⟨by decide, fun h => ?_, fun _ => eq_of_mask_eq (by decide) (by decide), ?_⟩
  · rw [hmask] at h
    exact absurd (h 'o' (by decide)) (by decide)
  · simp only [labelled, maskedKey, hmask, hquoted]
    decide +kernel

end Credentials

end ObjectVolume
