import PrintGateway.Model.Agent.DiscoveryTargets

/-!
# Discovery targets are sound and fair

The groups are stated anew on numbers: the hosts of each private subnet, narrowed to the 24 bits of its
address and listed for the first time.  The masks and additions of the code compute the same groups, and
the round-robin selection over them gives the rest.
-/

namespace PrintGateway.Agent

open Machine Text Net

/-! ### Addresses as numbers -/

theorem number_lt (address : Ipv4) : address.number < 2 ^ 32 := by
  unfold Ipv4.number
  omega

theorem ofNumber_number (address : Ipv4) : Ipv4.ofNumber address.number = address := by
  obtain ⟨a, b, c, d⟩ := address
  simp only [Ipv4.ofNumber, Ipv4.number, Ipv4.mk.injEq, Fin.ext_iff, Fin.val_ofNat]
  omega

theorem number_ofNumber {n : ℕ} (small : n < 2 ^ 32) : (Ipv4.ofNumber n).number = n := by
  simp only [Ipv4.ofNumber, Ipv4.number, Fin.val_ofNat]
  omega

theorem write_injective : Function.Injective Ipv4.write := fun _ _ same =>
  Option.some.inj ((readIpv4_eq_some_iff.mpr rfl).symm.trans (readIpv4_eq_some_iff.mpr same))

/-- Addresses that agree in all but the last byte are private together. -/
theorem isPrivate_of_div {a b : Ipv4} (same : a.number / 256 = b.number / 256) :
    Go.isPrivate a.mapped = Go.isPrivate b.mapped := by
  obtain ⟨a₀, a₁, a₂, a₃⟩ := a
  obtain ⟨b₀, b₁, b₂, b₃⟩ := b
  simp only [Ipv4.number] at same
  obtain rfl : a₀ = b₀ := by omega
  obtain rfl : a₁ = b₁ := by omega
  simp only [Go.isPrivate, Go.byFamily, Go.to4_mapped]

/-! ### The groups -/

/-- A private subnet: the address of the interface and the length of the mask, at least 24. -/
structure LocalSubnet where
  address : Ipv4
  ones : ℕ
  deriving DecidableEq

namespace LocalSubnet

/-- How many addresses it has. -/
def size (s : LocalSubnet) : ℕ := 2 ^ (32 - s.ones)

/-- The number of its first address, the network. -/
def first (s : LocalSubnet) : ℕ := s.address.number / s.size * s.size

/-- The addresses in order, without the network, the broadcast and the interface itself. -/
def hosts (s : LocalSubnet) : List Ipv4 :=
  (((List.range s.size).filter fun i => i ≠ 0 ∧ i ≠ s.size - 1).map fun i => Ipv4.ofNumber (s.first + i)).filter
    (· ≠ s.address)

/-- Two subnets with the same key are the same network. -/
def key (s : LocalSubnet) : ℕ × ℕ := (s.first, s.ones)

end LocalSubnet

/-- The address and the length of the mask, where the subnet has both. -/
def IPNet.prefixed (subnet : IPNet) : Option (Ipv4 × ℕ) :=
  if (maskSize (shortMask subnet.mask)).2 = 32 then
    (to4 subnet.ip).map fun ip => (ip, (maskSize (shortMask subnet.mask)).1)
  else none

/-- The host lies in the subnet. -/
def IPNet.Contains (subnet : IPNet) (host : Ipv4) : Prop :=
  ∃ ip ones, subnet.prefixed = some (ip, ones) ∧ host.number / 2 ^ (32 - ones) = ip.number / 2 ^ (32 - ones)

/-- A private subnet, narrowed to at most the local 24 bits. -/
def IPNet.narrowed (subnet : IPNet) : Option LocalSubnet :=
  subnet.prefixed.bind fun (ip, ones) => if Go.isPrivate ip.mapped then some ⟨ip, max ones 24⟩ else none

/-- The subnets that none before them has the key of. -/
def firstOccurrences : List LocalSubnet → List LocalSubnet
  | [] => []
  | s :: rest => s :: (firstOccurrences rest).filter (·.key ≠ s.key)

/-- The hosts of the private subnets. -/
def discoveryGroups (subnets : List IPNet) : List (List Text) :=
  (firstOccurrences (subnets.filterMap IPNet.narrowed)).map fun s => s.hosts.map Ipv4.write

theorem mem_firstOccurrences {list : List LocalSubnet} {s : LocalSubnet} (member : s ∈ firstOccurrences list) :
    s ∈ list := by
  induction list with
  | nil => exact member
  | cons head rest ih =>
    rcases List.mem_cons.mp member with rfl | later
    · exact List.mem_cons_self
    · exact List.mem_cons_of_mem _ (ih (List.mem_filter.mp later).1)

/-- One subnet more. -/
theorem firstOccurrences_concat (list : List LocalSubnet) (s : LocalSubnet) : firstOccurrences (list ++ [s]) =
      if s.key ∈ list.map LocalSubnet.key then firstOccurrences list else firstOccurrences list ++ [s] := by
  induction list with
  | nil => simp [firstOccurrences]
  | cons head rest ih =>
    simp only [List.cons_append, firstOccurrences, ih, List.map_cons, List.mem_cons]
    by_cases known : s.key ∈ rest.map LocalSubnet.key
    · simp [known]
    · by_cases same : s.key = head.key
      · simp only [if_neg known, List.filter_append]
        simp [same]
      · simp [known, same]

/-! ### Masks -/

theorem leadingOnes_lt : ∀ v : Fin 256, v ≠ 255 → (leadingOnes 8 0 v.val).2 = 0 →
    (leadingOnes 8 0 v.val).1 < 8 ∧ v.val = 256 - 2 ^ (8 - (leadingOnes 8 0 v.val).1) := by
  decide +kernel

/-- A mask of four bytes with at least 24 ones. -/
theorem eq_of_maskSize {mask : List (Fin 256)} (whole : (maskSize mask).2 = 32) (long : 24 ≤ (maskSize mask).1) :
    ∃ k ≤ 8, (maskSize mask).1 = 24 + k ∧ ∃ last : Fin 256, mask = [255, 255, 255, last] ∧
      last.val = 256 - 2 ^ (8 - k) := by
  obtain ⟨ones, measured⟩ : ∃ ones, simpleMaskLength mask = some ones := by
    cases simple : simpleMaskLength mask with
    | none => simp [maskSize, simple] at whole
    | some ones => exact ⟨ones, rfl⟩
  simp only [maskSize, measured] at whole long ⊢
  have four : mask.length = 4 := by omega
  obtain ⟨a, b, c, d, rfl⟩ : ∃ a b c d, mask = [a, b, c, d] := by
    match mask, four with
    | [a, b, c, d], _ => exact ⟨a, b, c, d, rfl⟩
  clear whole four
  -- A byte that is not all ones ends the mask with fewer than eight ones of its own.
  have short {v : Fin 256} {rest : List (Fin 256)} {n : ℕ} (part : v ≠ 255)
      (measured : simpleMaskLength (v :: rest) = some n) : n < 8 ∧ v.val = 256 - 2 ^ (8 - n) := by
    rw [simpleMaskLength, if_neg part] at measured
    split at measured
    · cases measured
    · next clean =>
      rw [← Option.some.inj measured]
      exact leadingOnes_lt v part (by tauto)
  have full {rest : List (Fin 256)} {n : ℕ} (measured : simpleMaskLength (255 :: rest) = some n) :
      ∃ m, simpleMaskLength rest = some m ∧ 8 + m = n := by
    simpa [simpleMaskLength] using measured
  by_cases first : a = 255
  case neg => have := short first measured; omega
  subst first
  obtain ⟨m₁, measured₁, sum₁⟩ := full measured
  by_cases second : b = 255
  case neg => have := short second measured₁; omega
  subst second
  obtain ⟨m₂, measured₂, sum₂⟩ := full measured₁
  by_cases third : c = 255
  case neg => have := short third measured₂; omega
  subst third
  obtain ⟨m₃, measured₃, sum₃⟩ := full measured₂
  by_cases last : d = 255
  · subst last
    obtain ⟨m₄, measured₄, sum₄⟩ := full measured₃
    cases measured₄
    exact ⟨8, by omega, by omega, 255, rfl, by decide⟩
  · obtain ⟨small, value⟩ := short last measured₃
    exact ⟨m₃, by omega, by omega, d, rfl, value⟩

theorem and_full : ∀ v : Fin 256, v &&& 255 = v := by decide +kernel

theorem and_last : ∀ k : Fin 9, ∀ v : Fin 256, (v &&& Fin.ofNat 256 (256 - 2 ^ (8 - k.val))).val =
    v.val / 2 ^ (8 - k.val) * 2 ^ (8 - k.val) := by
  decide +kernel

theorem inner_range : ∀ k : Fin 9, ((List.range (2 ^ (8 - k.val))).filter
    fun i => i ≠ 0 ∧ i ≠ 2 ^ (8 - k.val) - 1) = List.range' 1 (2 ^ (8 - k.val) - 2) := by
  decide +kernel

namespace LocalSubnet

variable {s : LocalSubnet} {k : ℕ}

theorem size_eq (ones : s.ones = 24 + k) : s.size = 2 ^ (8 - k) := by
  rw [size, ones, show 32 - (24 + k) = 8 - k by omega]

theorem number_maskIP (ones : s.ones = 24 + k) (small : k ≤ 8) {last : Fin 256}
    (value : last.val = 256 - 2 ^ (8 - k)) : (maskIP s.address [255, 255, 255, last]).number = s.first := by
  have final := and_last ⟨k, by omega⟩ s.address.d
  have isLast : Fin.ofNat 256 (256 - 2 ^ (8 - k)) = last := by
    rw [Fin.ext_iff, Fin.val_ofNat, value]
    interval_cases k <;> decide
  rw [isLast] at final
  simp only [maskIP, Ipv4.number, List.getD_cons_zero, List.getD_cons_succ, and_full, final, first, size_eq ones]
  interval_cases k <;> omega

/-- The hosts as numbers: they lie in the narrowed subnet. -/
theorem exists_of_mem_hosts (ones : s.ones = 24 + k) (small : k ≤ 8) {host : Ipv4} (member : host ∈ s.hosts) :
    ∃ i < s.size, host.number = s.first + i := by
  obtain ⟨i, inside, rfl⟩ := List.mem_map.mp (List.mem_filter.mp member).1
  have below : i < s.size := List.mem_range.mp (List.mem_filter.mp inside).1
  refine ⟨i, below, number_ofNumber ?_⟩
  have := number_lt s.address
  rw [first]
  rw [size_eq ones] at below ⊢
  interval_cases k <;> omega

/-- The hosts are distinct. -/
theorem nodup_hosts (ones : s.ones = 24 + k) (small : k ≤ 8) : s.hosts.Nodup := by
  refine List.Nodup.filter _ (List.Nodup.map_on ?_ (List.nodup_range.filter _))
  intro i inside j inside' same
  have below : i < s.size := List.mem_range.mp (List.mem_filter.mp inside).1
  have below' : j < s.size := List.mem_range.mp (List.mem_filter.mp inside').1
  have := number_lt s.address
  have bound : s.first + s.size ≤ 2 ^ 32 := by
    rw [first, size_eq ones]
    interval_cases k <;> omega
  have numbers := congrArg Ipv4.number same
  rw [number_ofNumber (by omega), number_ofNumber (by omega)] at numbers
  omega

/-- The code computes the hosts. -/
theorem generateHosts_eq {mask : List (Fin 256)} (whole : (maskSize mask).2 = 32)
    (long : 24 ≤ (maskSize mask).1) (ones : s.ones = (maskSize mask).1) :
    (generateHosts s.address mask).filter (· ≠ s.address) = s.hosts ∧ (maskIP s.address mask).number = s.first := by
  obtain ⟨k, small, length, last, rfl, value⟩ := eq_of_maskSize whole long
  have ones' := ones.trans length
  have base := number_maskIP ones' small value
  refine ⟨?_, base⟩
  have range := inner_range ⟨k, by omega⟩
  have total : min (2 ^ (32 - (maskSize [255, 255, 255, last]).1)) 1024 = s.size := by
    rw [length, size_eq ones', show 32 - (24 + k) = 8 - k by omega]
    interval_cases k <;> decide
  have capped : (List.range' 1 (s.size - 2)).take 254 = List.range' 1 (s.size - 2) := by
    refine List.take_of_length_le ?_
    rw [List.length_range', size_eq ones']
    interval_cases k <;> decide
  have number := number_lt s.address
  simp only [generateHosts, whole, ne_eq, not_true_eq_false, if_false, total, capped, base, hosts]
  rw [size_eq ones', ← range]
  congr 1
  refine List.map_congr_left fun i inside => ?_
  have below : i < 2 ^ (8 - k) := List.mem_range.mp (List.mem_filter.mp inside).1
  rw [Nat.mod_eq_of_lt]
  rw [first, size_eq ones']
  interval_cases k <;> omega

end LocalSubnet

/-! ### The code's groups -/

/-- The text that the code keeps of a subnet. -/
def LocalSubnet.text (s : LocalSubnet) : Text := subnetKey (Ipv4.ofNumber s.first) s.ones

theorem LocalSubnet.first_lt (s : LocalSubnet) : s.first < 2 ^ 32 :=
  lt_of_le_of_lt (Nat.div_mul_le_self _ _) (number_lt s.address)

theorem slash_not_mem_write (address : Ipv4) : '/' ∉ address.write := fun member =>
  absurd (Ipv4.isDigit_or_dot member) (by decide)

theorem LocalSubnet.text_eq_iff {s t : LocalSubnet} : s.text = t.text ↔ s.key = t.key := by
  constructor
  · intro same
    obtain ⟨network, ones⟩ := Go.append_mark_inj (slash_not_mem_write _) (slash_not_mem_write _) same
    have first := congrArg Ipv4.number (write_injective network)
    rw [number_ofNumber s.first_lt, number_ofNumber t.first_lt] at first
    have number := congrArg (Nat.ofDigitChars 10 · 0) ones
    simp only [digits, Nat.ofDigitChars_ten_toDigits] at number
    exact Prod.ext first number
  · intro same
    obtain ⟨first, ones⟩ := Prod.mk.inj same
    rw [LocalSubnet.text, LocalSubnet.text, first, ones]

/-- The masks of a private subnet and its narrowed form. -/
theorem IPNet.narrowed_eq_some {subnet : IPNet} {s : LocalSubnet} (narrowed : subnet.narrowed = some s) :
    subnet.prefixed = some (s.address, (maskSize (shortMask subnet.mask)).1) ∧
      to4 subnet.ip = some s.address ∧ Go.isPrivate s.address.mapped ∧
      (maskSize (shortMask subnet.mask)).2 = 32 ∧ s.ones = max (maskSize (shortMask subnet.mask)).1 24 := by
  obtain ⟨⟨ip, ones⟩, pair, inside⟩ := Option.bind_eq_some_iff.mp narrowed
  rw [IPNet.prefixed] at pair ⊢
  split at pair
  case isFalse => cases pair
  case isTrue whole =>
    obtain ⟨ip', read, same⟩ := Option.map_eq_some_iff.mp pair
    obtain ⟨rfl, rfl⟩ := Prod.mk.inj same
    by_cases isPrivate : Go.isPrivate ip'.mapped
    · simp only [isPrivate, if_true] at inside
      cases inside
      exact ⟨by simp [whole, read], read, isPrivate, whole, rfl⟩
    · simp [isPrivate] at inside

theorem not_isLoopback {ip : Ipv4} (isPrivate : Go.isPrivate ip.mapped = true) : Go.isLoopback ip.mapped = false := by
  simp only [Go.isPrivate, Go.isLoopback, Go.byFamily, Go.to4_mapped, Bool.or_eq_true, Bool.and_eq_true,
    decide_eq_true_eq, decide_eq_false_iff_not] at isPrivate ⊢
  rintro loop
  rw [loop] at isPrivate
  simp at isPrivate

/-- The length of the mask of a narrowed subnet. -/
theorem IPNet.ones_of_narrowed {subnet : IPNet} {s : LocalSubnet} (narrowed : subnet.narrowed = some s) :
    ∃ k ≤ 8, s.ones = 24 + k := by
  obtain ⟨-, -, -, whole, ones⟩ := IPNet.narrowed_eq_some narrowed
  by_cases short : (maskSize (shortMask subnet.mask)).1 < 24
  · exact ⟨0, by omega, by omega⟩
  · obtain ⟨k, small, length, -⟩ := eq_of_maskSize whole (by omega)
    exact ⟨k, small, by omega⟩

/-- One more subnet of the list. -/
theorem SubnetGroups.add_eq (state : SubnetGroups) (subnet : IPNet) : state.add subnet = match subnet.narrowed with
      | none => state
      | some s => if s.text ∈ state.seenSubnets then state
        else ⟨s.text :: state.seenSubnets, state.groups ++ [s.hosts.map Ipv4.write]⟩ := by
  cases narrowed : subnet.narrowed with
  | none =>
    simp only [SubnetGroups.add]
    cases read : to4 subnet.ip with
    | none => rfl
    | some ip =>
      simp only [IPNet.narrowed, IPNet.prefixed, read] at narrowed
      by_cases isPrivate : Go.isPrivate ip.mapped
      · have partial' : (maskSize (shortMask subnet.mask)).2 ≠ 32 := by
          intro whole
          simp [whole, isPrivate] at narrowed
        simp [partial']
      · simp [isPrivate]
  | some s =>
    obtain ⟨-, read, isPrivate, whole, ones⟩ := IPNet.narrowed_eq_some narrowed
    -- The mask that the code goes on with has the narrowed length.
    have narrow : ∃ mask, mask = (if (maskSize (shortMask subnet.mask)).1 < 24 then [255, 255, 255, 0]
        else shortMask subnet.mask) ∧ (maskSize mask).2 = 32 ∧ 24 ≤ (maskSize mask).1 ∧
        s.ones = (maskSize mask).1 := by
      refine ⟨_, rfl, ?_⟩
      split
      · have fixed : maskSize [255, 255, 255, 0] = (24, 32) := by decide
        rw [fixed, ones]
        omega
      · exact ⟨whole, by omega, by omega⟩
    obtain ⟨mask, isMask, whole', long, length⟩ := narrow
    obtain ⟨hosts, network⟩ := LocalSubnet.generateHosts_eq whole' long length
    have text : subnetKey (maskIP s.address mask) (maskSize mask).1 = s.text := by
      rw [LocalSubnet.text, ← network, ofNumber_number, length]
    simp only [SubnetGroups.add, read, isPrivate, not_isLoopback isPrivate, whole, ← isMask, hosts, text]
    simp

/-- The groups that the loop over the subnets collects. -/
theorem groups_eq (subnets : List IPNet) :
    (subnets.foldl SubnetGroups.add ⟨[], []⟩).groups = discoveryGroups subnets ∧
      ∀ text, text ∈ (subnets.foldl SubnetGroups.add ⟨[], []⟩).seenSubnets ↔
        text ∈ (subnets.filterMap IPNet.narrowed).map LocalSubnet.text := by
  induction subnets using List.reverseRecOn with
  | nil => simp [discoveryGroups, firstOccurrences]
  | append_singleton subnets subnet ih =>
    obtain ⟨groups, seen⟩ := ih
    rw [List.foldl_append, List.foldl_cons, List.foldl_nil, SubnetGroups.add_eq]
    cases narrowed : subnet.narrowed with
    | none =>
      have locals : (subnets ++ [subnet]).filterMap IPNet.narrowed = subnets.filterMap IPNet.narrowed := by
        simp [List.filterMap_append, narrowed]
      rw [discoveryGroups, locals]
      exact ⟨groups, seen⟩
    | some s =>
      have known : s.text ∈ (subnets.foldl SubnetGroups.add ⟨[], []⟩).seenSubnets ↔
          s.key ∈ (subnets.filterMap IPNet.narrowed).map LocalSubnet.key := by
        rw [seen]
        simp only [List.mem_map, LocalSubnet.text_eq_iff]
      have locals : (subnets ++ [subnet]).filterMap IPNet.narrowed = subnets.filterMap IPNet.narrowed ++ [s] := by
        simp [List.filterMap_append, narrowed]
      simp only [discoveryGroups, locals, firstOccurrences_concat, List.map_append, List.mem_append]
      by_cases member : s.text ∈ (subnets.foldl SubnetGroups.add ⟨[], []⟩).seenSubnets
      · simp only [if_pos member, if_pos (known.mp member)]
        refine ⟨groups, fun text => ?_⟩
        rw [seen]
        constructor
        · exact Or.inl
        · rintro (before | here)
          · exact before
          · rw [List.map_cons, List.map_nil, List.mem_singleton] at here
            rw [here]
            exact (seen _).mp member
      · simp only [if_neg member, if_neg fun inside => member (known.mpr inside)]
        refine ⟨by rw [groups]; simp [discoveryGroups], fun text => ?_⟩
        rw [List.mem_cons, seen]
        simp [or_comm]

/-! ### The selection -/

/-- A member of a group is a host of a listed private subnet. -/
theorem exists_of_mem_groups {subnets : List IPNet} {target : Text}
    (member : target ∈ (discoveryGroups subnets).flatten) :
    ∃ subnet ∈ subnets, ∃ host : Ipv4, target = host.write ∧ Go.isPrivate host.mapped = true ∧
      subnet.Contains host := by
  obtain ⟨group, listed, inside⟩ := List.mem_flatten.mp member
  obtain ⟨s, first, rfl⟩ := List.mem_map.mp listed
  obtain ⟨host, isHost, rfl⟩ := List.mem_map.mp inside
  obtain ⟨subnet, isListed, narrowed⟩ := List.mem_filterMap.mp (mem_firstOccurrences first)
  obtain ⟨pair, -, isPrivate, -, ones⟩ := IPNet.narrowed_eq_some narrowed
  obtain ⟨k, small, length⟩ := IPNet.ones_of_narrowed narrowed
  obtain ⟨i, below, number⟩ := LocalSubnet.exists_of_mem_hosts length small isHost
  -- The host is in the block of the narrowed subnet, and every larger block is a union of such blocks.
  have block : host.number / s.size = s.address.number / s.size := by
    have positive : 0 < s.size := Nat.two_pow_pos _
    rw [number, LocalSubnet.first, Nat.mul_comm, Nat.mul_add_div positive, Nat.div_eq_of_lt below, Nat.add_zero]
  have larger {n : ℕ} (shorter : n ≤ s.ones) : host.number / 2 ^ (32 - n) = s.address.number / 2 ^ (32 - n) := by
    have split : 2 ^ (32 - n) = s.size * 2 ^ (s.ones - n) := by
      rw [LocalSubnet.size, ← pow_add]
      congr 1
      omega
    rw [split, ← Nat.div_div_eq_div_mul, ← Nat.div_div_eq_div_mul, block]
  refine ⟨subnet, isListed, host, rfl, ?_, s.address, _, pair, larger (by omega)⟩
  rw [isPrivate_of_div (larger (n := 24) (by omega)), isPrivate]

theorem nodup_of_mem_groups {subnets : List IPNet} {group : List Text} (member : group ∈ discoveryGroups subnets) :
    group.Nodup := by
  obtain ⟨s, first, rfl⟩ := List.mem_map.mp member
  obtain ⟨subnet, -, narrowed⟩ := List.mem_filterMap.mp (mem_firstOccurrences first)
  obtain ⟨k, small, length⟩ := IPNet.ones_of_narrowed narrowed
  exact (LocalSubnet.nodup_hosts length small).map write_injective

/-- The targets are distinct hosts of the groups, private and in a listed subnet; there are as many as the
budget and the groups allow, and the flag says when there were more; and of two groups with no host in
another one, neither is ahead by more than one target while the other has hosts left. -/
theorem privateDiscoveryTargets_sound_fair (subnets : List IPNet) (budget : ℤ) : let groups := discoveryGroups subnets
    let targets := (privateDiscoveryTargetsWithBudget subnets budget).1
    let truncated := (privateDiscoveryTargetsWithBudget subnets budget).2
    let candidates := groups.flatten.toFinset
    targets.Nodup ∧
    (∀ target ∈ targets, target ∈ candidates ∧ ∃ subnet ∈ subnets, ∃ host : Ipv4, target = host.write ∧
      Go.isPrivate host.mapped = true ∧ subnet.Contains host) ∧
    targets.length = min (max budget 0).toNat candidates.card ∧
    (truncated = true ↔ max budget 0 < candidates.card) ∧
    ∀ group other, RoundRobin.Alone groups group → RoundRobin.Alone groups other →
      RoundRobin.takenFrom targets other < other.length →
        RoundRobin.takenFrom targets group ≤ RoundRobin.takenFrom targets other + 1 := by
  intro groups targets truncated candidates
  have isSelect : privateDiscoveryTargetsWithBudget subnets budget =
      RoundRobin.select (max budget 0).toNat groups 0 [] := by
    rw [privateDiscoveryTargetsWithBudget, (groups_eq subnets).1]
  have isTargets : targets = (RoundRobin.select (max budget 0).toNat groups 0 []).1 := congrArg Prod.fst isSelect
  have isTruncated : truncated = (RoundRobin.select (max budget 0).toNat groups 0 []).2 :=
    congrArg Prod.snd isSelect
  have selected := RoundRobin.select_selected (max budget 0).toNat groups 0 List.nodup_nil (Nat.zero_le _)
  obtain ⟨length, more⟩ := RoundRobin.select_count (max budget 0).toNat groups
  rw [← isTargets] at length
  rw [← isTruncated] at more
  refine ⟨isTargets ▸ selected.nodup, fun target chosen => ?_, length, more.trans ?_, ?_⟩
  · obtain ⟨group, listed, inside⟩ := (selected.mem target (isTargets ▸ chosen)).resolve_left (by simp)
    have member : target ∈ groups.flatten := List.mem_flatten.mpr ⟨group, listed, inside⟩
    exact ⟨List.mem_toFinset.mpr member, exists_of_mem_groups member⟩
  · change _ ↔ max budget 0 < (groups.flatten.toFinset.card : ℤ)
    omega
  · intro group other alone otherAlone left
    rw [isTargets] at left ⊢
    exact RoundRobin.select_fair _ (fun _ => nodup_of_mem_groups) alone otherAlone left

/-- Two interfaces with small private networks. -/
def sampleSubnets : List IPNet :=
  [⟨[10, 0, 0, 1], [255, 255, 255, 252]⟩, ⟨[192, 168, 1, 1], [255, 255, 255, 248]⟩]

def sampleGroups : List (List Text) :=
  [["10.0.0.2"], ["192.168.1.2", "192.168.1.3", "192.168.1.4", "192.168.1.5", "192.168.1.6"]]

theorem privateDiscoveryTargets_sound_fair_pair : let targets := (privateDiscoveryTargetsWithBudget sampleSubnets 2).1
    RoundRobin.takenFrom targets sampleGroups[1] < 5 ∧
      RoundRobin.takenFrom targets sampleGroups[0] ≤ RoundRobin.takenFrom targets sampleGroups[1] + 1 := by
  intro targets
  obtain ⟨-, -, length, -, fair⟩ := privateDiscoveryTargets_sound_fair sampleSubnets 2
  have groups : discoveryGroups sampleSubnets = sampleGroups := by decide +kernel
  have short : RoundRobin.takenFrom targets sampleGroups[1] < 5 := by
    refine lt_of_le_of_lt (List.length_filter_le _ _) ?_
    rw [show targets.length = _ from length]
    omega
  have apart : ∀ host ∈ sampleGroups[0], host ∉ sampleGroups[1] := by decide +kernel
  have disjoint : sampleGroups[0].Disjoint sampleGroups[1] := fun host => apart host
  rw [groups] at fair
  refine ⟨short, fair _ _ ⟨[], [sampleGroups[1]], rfl, ?_⟩ ⟨[sampleGroups[0]], [], rfl, ?_⟩ short⟩
  · simpa using disjoint
  · simpa using disjoint.symm

end PrintGateway.Agent
