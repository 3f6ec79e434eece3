import PrintGateway.Model.Gateway.Destination
import PrintGateway.Net.Go

/-!
# Destinations that are no addresses

A destination with a colon is put between brackets into a URL, and only the host of that URL is looked at.  A text
that closes the bracket, names credentials or has line breaks in it is accepted with an address inside.
-/

namespace PrintGateway.Gateway

open Text Net
open Net.Url (isTabOrNewline isTerminator cutPort readOptionalPort readHost)

/-! ### Where a URL has its host -/

/-- What is behind the last mark. -/
theorem rtakeWhile_eq_iff {mark : Char} {text behind : Text} : text.rtakeWhile (· ≠ mark) = behind ↔
    ∃ before, text = before ++ behind ∧ mark ∉ behind ∧ (before = [] ∨ before.getLast? = some mark) := by
  constructor
  · rintro rfl
    refine ⟨text.rdropWhile (· ≠ mark), List.rdropWhile_append_rtakeWhile.symm, ?_, ?_⟩
    · exact fun member => absurd (List.mem_rtakeWhile_imp member) (by simp)
    · by_cases none : text.rdropWhile (· ≠ mark) = []
      · exact .inl none
      · refine .inr ?_
        have last := List.rdropWhile_last_not _ text none
        rw [List.getLast?_eq_getLast_of_ne_nil none]
        simpa using last
  · rintro ⟨before, rfl, plain, rfl | ends⟩
    · rw [List.nil_append, List.rtakeWhile_eq_self_iff]
      exact fun c member => decide_eq_true fun same => plain (same ▸ member)
    · obtain ⟨init, rfl⟩ := List.getLast?_eq_some_iff.mp ends
      rw [List.append_assoc]
      exact Go.rtakeWhile_ne plain

/-- What is before the first character of a kind, when there is one. -/
theorem takeWhile_eq_iff {ends : Char → Bool} {text before : Text} (ended : text.any ends = true) :
    text.takeWhile (!ends ·) = before ↔
      ∃ after, text = before ++ after ∧ (∀ c ∈ before, ends c = false) ∧ after.head?.any ends = true := by
  constructor
  · rintro rfl
    refine ⟨text.dropWhile (!ends ·), List.takeWhile_append_dropWhile.symm, ?_, ?_⟩
    · exact fun c member => by simpa using List.mem_takeWhile_imp member
    · induction text with
      | nil => cases ended
      | cons c text ih =>
        by_cases here : ends c = true
        · rw [List.dropWhile_cons_of_neg (by simp [here])]
          exact here
        · rw [List.dropWhile_cons_of_pos (by simp [here])]
          rw [List.any_cons, Bool.eq_false_of_not_eq_true here, Bool.false_or] at ended
          exact ih ended
  · rintro ⟨after, rfl, plain, first⟩
    rw [List.takeWhile_append_of_pos fun c member => by simp [plain c member]]
    cases after with
    | nil => cases first
    | cons c after =>
      have here : ends c = true := first
      rw [List.takeWhile_cons_of_neg (by simp [here]), List.append_nil]

/-- The text `host` stands where the URL `http://[core]/` has its host: behind the credentials, before the port, in
what is left of the text up to a slash, a question mark or a number sign without tabs and line breaks. -/
def NamesHost (core host : Text) : Prop :=
  ∃ before authority after port,
    '[' :: (core.filter fun c => !isTabOrNewline c) ++ "]/" = before ++ authority ++ after ∧
    (∀ c ∈ before ++ authority, isTerminator true c = false) ∧ after.head?.any (isTerminator true) = true ∧
    '@' ∉ authority ∧ (before = [] ∨ before.getLast? = some '@') ∧
    cutPort false authority = (host, port) ∧ (readOptionalPort "http" port).isSome = true

section

variable (mapping : Text → Option Text)

/-- The URL of a destination is read from its bracket on, without tabs and line breaks. -/
theorem parse_bracketed (core : Text) : Url.parse mapping ("http://[" ++ core ++ "]/") =
      Url.readAuthority mapping "http" ('[' :: (core.filter fun c => !isTabOrNewline c) ++ "]/") := by
  have cleaned : Url.clean ("http://[" ++ core ++ "]/") =
      "http" ++ ':' :: '/' :: '/' :: ('[' :: (core.filter fun c => !isTabOrNewline c) ++ "]/") := by
    have left : ("http://[" ++ core ++ "]/").dropWhile Url.isStripped = "http://[" ++ core ++ "]/" := rfl
    have right : ("http://[" ++ core ++ "]/").rdropWhile Url.isStripped = "http://[" ++ core ++ "]/" := by
      have ends : "http://[" ++ core ++ "]/" = ("http://[" ++ core ++ [']']) ++ ['/'] := by simp
      rw [ends, List.rdropWhile_concat_neg _ _ _ (by decide)]
    have before : "http://[".toList.filter (fun c => !isTabOrNewline c) = "http://[" := by decide
    have behind : "]/".toList.filter (fun c => !isTabOrNewline c) = "]/" := by decide
    rw [Url.clean, left, right, List.filter_append, List.filter_append, before, behind]
    simp
  have scheme : "http".toList.map Char.toLower = "http" := by decide
  rw [Url.parse, cleaned, Url.cutScheme_append (by decide), scheme]
  rfl

/-- The host of an authority is what is before the port and behind the credentials. -/
theorem host_readAuthority (text h : Text) : (Url.readAuthority mapping "http" text).map Url.host = some h ↔
      ∃ host port, cutPort false ((text.takeWhile fun c => !isTerminator true c).rtakeWhile (· ≠ '@')) = (host, port) ∧
        host ≠ [] ∧ readHost mapping true host = some h ∧ (readOptionalPort "http" port).isSome = true := by
  have special : Url.isSpecial "http" = true := by decide
  unfold Url.readAuthority
  rw [special]
  dsimp only
  generalize cutPort false ((text.takeWhile fun c => !isTerminator true c).rtakeWhile (· ≠ '@')) = cut
  obtain ⟨host, port⟩ := cut
  have single : (∃ host' port', (host, port) = (host', port') ∧ host' ≠ [] ∧ readHost mapping true host' = some h ∧
      (readOptionalPort "http" port').isSome = true) ↔
      host ≠ [] ∧ readHost mapping true host = some h ∧ (readOptionalPort "http" port).isSome = true := by
    constructor
    · rintro ⟨_, _, same, found⟩
      cases same
      exact found
    · exact fun found => ⟨host, port, rfl, found⟩
  rw [single]
  simp only [true_or, and_true]
  by_cases none : host = []
  · simp [none]
  · rw [if_neg none]
    cases readHost mapping true host with
    | none => simp
    | some found => cases readOptionalPort "http" port <;> simp [none]

/-- The URL parser reads the host that a text names. -/
theorem host_parse_eq_some_iff (core h : Text) :
    (Url.parse mapping ("http://[" ++ core ++ "]/")).map Url.host = some h ↔
      ∃ host, NamesHost core host ∧ host ≠ [] ∧ readHost mapping true host = some h := by
  have ended : ('[' :: (core.filter fun c => !isTabOrNewline c) ++ "]/").any (isTerminator true) = true := by
    rw [List.any_append, Bool.or_eq_true]
    exact .inr (by decide)
  rw [parse_bracketed, host_readAuthority]
  constructor
  · rintro ⟨host, port, cut, named, read, ported⟩
    obtain ⟨after, whole, plain, first⟩ := (takeWhile_eq_iff ended).mp rfl
    obtain ⟨before, split, noAt, credentials⟩ := rtakeWhile_eq_iff.mp rfl
    exact ⟨host, ⟨before, _, after, port, split ▸ whole, split ▸ plain, first, noAt, credentials, cut, ported⟩, named, read⟩
  · rintro ⟨host, ⟨before, authority, after, port, whole, plain, first, noAt, credentials, cut, ported⟩, named, read⟩
    refine ⟨host, port, ?_, named, read, ported⟩
    rw [(takeWhile_eq_iff ended).mpr ⟨after, whole, plain, first⟩,
      rtakeWhile_eq_iff.mpr ⟨before, rfl, noAt, credentials⟩, cut]

end

/-! ### Accepted texts -/

/-- A private address stands where the URL of a text has its host. -/
def NamesPrivateHost (mapping : Text → Option Text) (core : Text) : Prop :=
  ∃ host h, NamesHost core host ∧ host ≠ [] ∧ readHost mapping true host = some h ∧ isAllowedHost (unbracket h) = true

/-- A text without a colon that is allowed is an IPv4 address. -/
theorem isSome_readAddress_of_isAllowedHost {host : Text} (noColon : ':' ∉ host) (allowed :
    isAllowedHost host = true) :
    (readAddress host).isSome = true := by
  have notSix : readIpv6 (host.takeWhile (· ≠ '%')) = none := by
    rw [Option.eq_none_iff_forall_ne_some]
    exact fun address read => noColon ((List.takeWhile_prefix _).subset (colon_mem_of_readIpv6 read))
  by_contra unread
  have notFour : (readIpv4 host).isSome = false := by
    rw [readAddress, Option.isSome_or] at unread
    cases four : readIpv4 host with
    | none => rfl
    | some address => simp [four] at unread
  have none : isIP host = 0 := by
    unfold isIP
    dsimp only
    rw [notFour, if_neg Bool.false_ne_true, if_neg fun six => absurd six.1 (by rw [notSix]; decide)]
  rw [isAllowedHost, isPrivateNetworkAddress, none] at allowed
  split at allowed <;> cases allowed

/-- A text with a colon is allowed for the private address it names. -/
theorem isAllowedPrinterDestination_colon (mapping : Text →
    Option Text) {s : Text} (colon : ':' ∈ unbracket (trim s)) :
    isAllowedPrinterDestination mapping s = true ↔ NamesPrivateHost mapping (unbracket (trim s)) := by
  rw [isAllowedPrinterDestination, finalHost, if_pos colon, Option.any_map, Option.any_eq_true]
  constructor
  · rintro ⟨url, parsed, allowed⟩
    obtain ⟨host, names, named, read⟩ := (host_parse_eq_some_iff mapping _ url.host).mp (by rw [parsed]; rfl)
    exact ⟨host, url.host, names, named, read, allowed⟩
  · rintro ⟨host, h, names, named, read, allowed⟩
    obtain ⟨url, parsed, rfl⟩ := Option.map_eq_some_iff.mp
      ((host_parse_eq_some_iff mapping _ h).mpr ⟨host, names, named, read⟩)
    exact ⟨url, parsed, allowed⟩

/-- An allowed destination is an address exactly when no private address is hidden in another text. -/
theorem isAllowedPrinterDestination_literal_iff (mapping : Text → Option Text) (s : Text) :
    (isAllowedPrinterDestination mapping s = true → (readAddress (unbracket (trim s))).isSome = true) ↔
      (':' ∈ unbracket (trim s) → readIpv6 (unbracket (trim s)) = none →
        ¬NamesPrivateHost mapping (unbracket (trim s))) := by
  by_cases colon : ':' ∈ unbracket (trim s)
  · have noFour : readIpv4 (unbracket (trim s)) = none := by
      rw [Option.eq_none_iff_forall_ne_some]
      intro address read
      rw [readIpv4_eq_some_iff.mp read] at colon
      exact Ipv4.colon_not_mem_write address colon
    rw [isAllowedPrinterDestination_colon mapping colon, readAddress, noFour]
    cases readIpv6 (unbracket (trim s)) with
    | none => simp [colon]
    | some address => simp
  · refine iff_of_true (fun allowed => ?_) fun colon' => absurd colon' colon
    rw [isAllowedPrinterDestination, finalHost, if_neg colon] at allowed
    exact isSome_readAddress_of_isAllowedHost colon allowed

/-- An address in brackets and capitals. -/
theorem isAllowedPrinterDestination_literal_iff_brackets : isAllowedPrinterDestination some " [FD00::1]" = true ∧
      (readAddress (unbracket (trim " [FD00::1]"))).isSome = true := by
  have allowed : isAllowedPrinterDestination some " [FD00::1]" = true := by decide +kernel
  refine ⟨allowed, (isAllowedPrinterDestination_literal_iff some " [FD00::1]").mpr ?_ allowed⟩
  exact fun _ unread => absurd unread (by decide +kernel)

/-- A text that closes the bracket and goes on is allowed. -/
theorem exists_allowed_not_literal :
    ¬∀ (mapping : Text → Option Text) (s : Text), isAllowedPrinterDestination mapping s = true →
      (readAddress (unbracket (trim s))).isSome = true := fun literal =>
  absurd (literal some "fd00::1]/@x" (by decide +kernel)) (by decide +kernel)

end PrintGateway.Gateway
