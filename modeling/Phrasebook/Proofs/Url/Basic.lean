import Phrasebook.Proofs.Rows
import Phrasebook.Proofs.Url.Punycode
import Phrasebook.Url.Basic

namespace Phrasebook.Url

/-!
# Addresses and domains

The key of a vault is an address, so what counts is which texts are one.

* `Domain.isPlain_of_mem_ofText?`: a domain is written with plain letters.
* `isEncodedInPassword_of_mem_passwordOf`: a password has no character that it may not have.
* `exists_host_of_password`: an address with a password has a host.
-/

/-! ### Domains -/

namespace Domain

/-- A label is written with plain letters, whether it had others or not. -/
theorem isPlain_of_label? {s t : List Char} (h : label? s = some t) {c : Char} (hc : c ∈ t) :
    Punycode.isPlain c = true := by
  unfold label? at h
  split at h
  · split at h
    · next hplain =>
      rw [← Option.some.inj h] at hc
      exact List.all_eq_true.1 (Bool.and_eq_true_iff.1 hplain).1 c hc
    · exact absurd h (by simp)
  · split at h
    · next hplain =>
      rw [← Option.some.inj h] at hc
      exact List.all_eq_true.1 hplain c hc
    · split at h
      · rw [← Option.some.inj h] at hc
        rcases List.mem_append.1 hc with hc | hc
        · have hstart : encodedStart.all Punycode.isPlain = true := by decide +kernel
          exact List.all_eq_true.1 hstart c hc
        · exact Punycode.isPlain_of_mem_encode hc
      · exact absurd h (by simp)

/-- A domain is written with plain letters. -/
theorem isPlain_of_mem_ofText? {s t : List Char} (h : ofText? s = some t) {c : Char}
    (hc : c ∈ t) : Punycode.isPlain c = true := by
  obtain ⟨ls, hls, rfl⟩ := Option.map_eq_some_iff.1 h
  obtain ⟨m, -, hm⟩ := Option.bind_eq_some_iff.1 hls
  -- what stands between the labels is a dot
  rcases mem_intercalate hc with hdot | ⟨l, hl, hcl⟩
  · rw [List.mem_singleton.1 hdot]
    decide
  · obtain ⟨label, -, hlabel⟩ := exists_of_mem_mapM hm hl
    exact isPlain_of_label? hlabel hcl

end Domain

/-! ### Passwords -/

/-- No digit of an octet has to be written with a percent sign. -/
theorem isEncodedInPassword_of_mem_percentOctet {n : Nat} (hn : n < 256) {c : Char}
    (hc : c ∈ Text.percentOctet n) : isEncodedInPassword c = false := by
  have hdigit : ∀ m : Fin 16, isEncodedInPassword (Text.upperHexDigit m.1) = false := by
    decide +kernel
  rcases List.mem_cons.1 hc with rfl | hc
  · decide +kernel
  · rcases List.mem_cons.1 hc with rfl | hc
    · exact hdigit ⟨n / 16, by omega⟩
    · rw [List.mem_singleton.1 hc]
      exact hdigit ⟨n % 16, by omega⟩

/-- The octets of a character are octets. -/
theorem lt_of_mem_charOctets {c : Char} {n : Nat} (hn : n ∈ Text.charOctets c) : n < 256 := by
  have hc : c.toNat < 0xD800 ∨ (0xDFFF < c.toNat ∧ c.toNat < 0x110000) := c.valid
  unfold Text.charOctets at hn
  simp only at hn
  split at hn
  · rw [List.mem_singleton.1 hn]
    omega
  · split at hn
    · simp only [List.mem_cons, List.not_mem_nil, or_false] at hn
      omega
    · split at hn
      · simp only [List.mem_cons, List.not_mem_nil, or_false] at hn
        omega
      · simp only [List.mem_cons, List.not_mem_nil, or_false] at hn
        omega

/-- Whatever the credentials of an address are, the password has no character that it may not
    have. -/
theorem isEncodedInPassword_of_mem_passwordOf {credentials : List Char} {c : Char}
    (hc : c ∈ passwordOf credentials) : isEncodedInPassword c = false := by
  obtain ⟨a, -, ha⟩ := List.mem_flatMap.1 hc
  split at ha
  · obtain ⟨n, hn, hcn⟩ := List.mem_flatMap.1 ha
    exact isEncodedInPassword_of_mem_percentOctet (lt_of_mem_charOctets hn) hcn
  · next hplain =>
    rw [List.mem_singleton.1 ha]
    exact Bool.eq_false_of_not_eq_true hplain

/-! ### Addresses with a password -/

/-- The last at sign stands between the two parts. -/
theorem lastAt?_eq_some {s before after : List Char} (h : lastAt? s = some (before, after)) :
    s = before ++ '@' :: after := by
  induction s generalizing before with
  | nil => exact absurd h (by simp [lastAt?])
  | cons c s ih =>
    unfold lastAt? at h
    split at h
    · next b a hrest =>
      obtain ⟨rfl, rfl⟩ := Prod.mk.inj (Option.some.inj h)
      rw [ih hrest, List.cons_append]
    · split at h
      · next hat =>
        obtain ⟨rfl, rfl⟩ := Prod.mk.inj (Option.some.inj h)
        rw [hat, List.nil_append]
      · exact absurd h (by simp)

/-- A host stands at the start of the text it is read from. -/
theorem hostAndPort_prefix (inBrackets : Bool) (s : List Char) :
    (hostAndPort inBrackets s).1 <+: s := by
  induction s generalizing inBrackets with
  | nil => exact List.prefix_rfl
  | cons c s ih =>
    unfold hostAndPort
    split
    · exact List.nil_prefix
    · exact (List.prefix_cons_inj c).2 (ih _)

/-- A host is empty only before a colon or where there is nothing. -/
theorem eq_nil_of_hostAndPort {inBrackets : Bool} {s : List Char}
    (h : hostAndPort inBrackets s = ([], none)) : s = [] := by
  cases s with
  | nil => rfl
  | cons c s =>
    unfold hostAndPort at h
    split at h
    · exact absurd (Prod.mk.inj h).2 (by simp)
    · exact absurd (Prod.mk.inj h).1 (by simp)

/-- A text that is a host, perhaps with a port, starts with a host. -/
theorem exists_host_of_isHostAndPort {wellKnown : Bool} {s : List Char} (hs : s ≠ [])
    (h : isHostAndPort wellKnown s = true) :
    ∃ host, host ≠ [] ∧ host <+: s ∧ isHost wellKnown host = true := by
  have hprefix := hostAndPort_prefix false s
  unfold isHostAndPort at h
  split at h
  · next host hread =>
    rw [hread] at hprefix
    have hne : host ≠ [] := by
      rintro rfl
      exact hs (eq_nil_of_hostAndPort hread)
    rw [if_neg (by simpa using hne)] at h
    exact ⟨host, hne, hprefix, h⟩
  · next host port hread =>
    rw [hread] at hprefix
    obtain ⟨⟨hne, hhost⟩, -⟩ : (host.isEmpty = false ∧ isHost wellKnown host = true)
        ∧ isPort port = true := by simpa using h
    exact ⟨host, List.isEmpty_eq_false_iff.1 hne, hprefix, hhost⟩

/-- An address with a password has a host, if it starts with credentials or a host. -/
theorem exists_host_of_withHost? {wellKnown : Bool} {s : List Char} {u : Url}
    (h : withHost? wellKnown s = some u) (hpassword : u.password ≠ []) :
    ∃ host, host ≠ [] ∧ host <:+: s ∧ isHost wellKnown host = true := by
  obtain ⟨authority, hauthority⟩ :
      ∃ a, a = s.takeWhile fun c => !endsAuthority wellKnown c := ⟨_, rfl⟩
  unfold withHost? at h
  simp only [← hauthority] at h
  split at h
  · split at h
    · rw [← Option.some.inj h] at hpassword
      exact absurd rfl hpassword
    · exact absurd h (by simp)
  · next credentials rest hat =>
    split at h
    · next hhost =>
      obtain ⟨hne, hread⟩ := Bool.and_eq_true_iff.1 hhost
      obtain ⟨host, hhostne, hprefix, his⟩ :=
        exists_host_of_isHostAndPort (by simpa using hne) hread
      refine ⟨host, hhostne, ?_, his⟩
      have hrest : rest <:+ authority := by
        rw [lastAt?_eq_some hat]
        exact (List.suffix_cons '@' rest).trans (List.suffix_append _ _)
      have hstart : authority <+: s := hauthority ▸ List.takeWhile_prefix _
      exact hprefix.isInfix.trans (hrest.isInfix.trans hstart.isInfix)
    · exact absurd h (by simp)

/-- What stands after a scheme ends the text. -/
theorem scheme?_suffix {s rest : List Char} {scheme : String}
    (h : scheme? s = some (scheme, rest)) :
    rest <:+ s := by
  unfold scheme? at h
  simp only at h
  split at h
  · next c name rest' hname hrest =>
    split at h
    · obtain ⟨-, rfl⟩ := Prod.mk.inj (Option.some.inj h)
      have hdrop : (':' :: rest') <:+ s := hrest ▸ List.dropWhile_suffix _
      exact (List.suffix_cons ':' rest').trans hdrop
    · exact absurd h (by simp)
  · exact absurd h (by simp)

/-- The address of a file has no password. -/
theorem password_of_ofFile? {s : List Char} {u : Url} (h : ofFile? s = some u) :
    u.password = [] := by
  unfold ofFile? at h
  split at h
  · split at h
    · simp only at h
      split at h
      · rw [← Option.some.inj h]
      · exact absurd h (by simp)
    · rw [← Option.some.inj h]
  · rw [← Option.some.inj h]

/-- An address with a password has a host. -/
theorem exists_host_of_password {s : List Char} {u : Url} (h : ofText? s = some u)
    (hpassword : u.password ≠ []) :
    ∃ wellKnown host, host ≠ [] ∧ host <:+: strip s ∧ isHost wellKnown host = true := by
  unfold ofText? at h
  split at h
  · exact absurd h (by simp)
  · next scheme rest hscheme =>
    have hrest : rest <:+: strip s := (scheme?_suffix hscheme).isInfix
    split at h
    · exact absurd (password_of_ofFile? h) hpassword
    · split at h
      · obtain ⟨host, hne, hin, his⟩ := exists_host_of_withHost? h hpassword
        have hslashes : rest.dropWhile (isSlash true) <:+: rest :=
          (List.dropWhile_suffix _).isInfix
        exact ⟨true, host, hne, (hin.trans hslashes).trans hrest, his⟩
      · split at h
        · next t =>
          obtain ⟨host, hne, hin, his⟩ := exists_host_of_withHost? h hpassword
          have hslashes : t <:+: '/' :: '/' :: t :=
            ((List.suffix_cons '/' t).trans (List.suffix_cons '/' _)).isInfix
          exact ⟨false, host, hne, (hin.trans hslashes).trans hrest, his⟩
        · rw [← Option.some.inj h] at hpassword
          exact absurd rfl hpassword

end Phrasebook.Url
