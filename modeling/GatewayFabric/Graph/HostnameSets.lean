/-
What the hostname of a listener or of a route stands for: a set of concrete
hostnames, the lower-case RFC 1123 subdomains. The empty hostname stands for
all of them, `*.d` for those with at least one label more that end in `.d`,
any other for itself.

`match` tests that two such sets meet, and `GetMoreSpecificHostname` of two
that meet stands for their intersection (`Agrees`, `agrees_of_shape`): one
lemma for each shape of a listener's and a route's hostname, read off `match`
through the prefix and suffix tests on the characters. The hostnames
`findAcceptedHostnames` gives a route then stand for the intersections of the
listener's with each of the route's that meets it
(`map_denote_filter_match`).
-/
import Mathlib.Data.Set.Insert
import GatewayFabric.Graph.Hostnames

namespace GatewayFabric.Graph

/-! ## Concrete hostnames -/

/-- A concrete hostname: a lower-case RFC 1123 subdomain. -/
def IsHost (h : List Char) : Prop := matchesDNS1123SubdomainFmt h = true

theorem isHost_append_dot {x d : List Char} : IsHost (x ++ '.' :: d) ↔ IsHost x ∧ IsHost d := by
  simp only [IsHost, matchesDNS1123SubdomainFmt, List.splitOn_append_cons_self, List.all_append, Bool.and_eq_true]

theorem not_isHost_nil : ¬IsHost [] := by
  simp [IsHost, matchesDNS1123SubdomainFmt, isDNS1123Label]

/-- A concrete hostname starts with a letter or a digit. -/
theorem not_isHost_star (h : List Char) : ¬IsHost ('*' :: h) := by
  obtain ⟨l₀, ls, hs⟩ := List.exists_cons_of_ne_nil (List.splitOn_ne_nil '.' h)
  have hlabel : isDNS1123Label ('*' :: l₀) = false := by
    unfold isDNS1123Label
    split
    · next a z ha _ =>
      simp only [List.head?_cons, Option.some.injEq] at ha
      subst ha
      simp [isLowerAlnum]
    · rfl
  simp [IsHost, matchesDNS1123SubdomainFmt, List.splitOn_cons_eq_if_modifyHead, hs, hlabel]

/-! ## The shapes of a hostname -/

/-- The shapes of the hostname of a listener or a route: none, `*.` and a
subdomain, or a subdomain. -/
inductive Shape : String → Prop
  | empty : Shape ""
  | wildcard {p : String} (d : List Char) : p.toList = '*' :: '.' :: d → IsHost d → Shape p
  | exact {p : String} : IsHost p.toList → Shape p

/-- A hostname that `validateHostname` admits has one of the two non-empty shapes. -/
theorem shape_of_validateHostname {p : String} (h : validateHostname p = .ok ()) :
    (∃ d, p.toList = '*' :: '.' :: d ∧ IsHost d) ∨ IsHost p.toList := by
  unfold validateHostname at h
  split at h
  · cases h
  · split at h
    · next hpre =>
      obtain ⟨d, hd⟩ : ['*', '.'] <+: p.toList := by simpa [hasPrefix] using hpre
      have hfmt : matchesWildcardDNS1123SubdomainFmt p.toList = true := by
        by_contra hf
        cases hw : isWildcardDNS1123Subdomain p with
        | nil => simp [isWildcardDNS1123Subdomain, hf] at hw
        | cons m ms => simp [hw] at h
      rw [← hd] at hfmt
      exact .inl ⟨d, hd.symm, by simpa [matchesWildcardDNS1123SubdomainFmt, IsHost] using hfmt⟩
    · have hfmt : matchesDNS1123SubdomainFmt p.toList = true := by
        by_contra hf
        cases hw : isDNS1123Subdomain p with
        | nil => simp [isDNS1123Subdomain, hf] at hw
        | cons m ms => simp [hw] at h
      exact .inr hfmt

theorem ne_empty_of_validateHostname {p : String} (h : validateHostname p = .ok ()) : p ≠ "" := by
  rintro rfl
  simp [validateHostname] at h

theorem shape_of_valid {p : String} (h : p = "" ∨ validateHostname p = .ok ()) : Shape p := by
  rcases h with rfl | h
  · exact .empty
  · rcases shape_of_validateHostname h with ⟨d, hd, hhost⟩ | hhost
    · exact .wildcard d hd hhost
    · exact .exact hhost

/-! ## The tests of `match` on each shape -/

section Tests

variable {p q : String} {d : List Char}

theorem hasPrefix_star_of_wildcard (hp : p.toList = '*' :: '.' :: d) : hasPrefix p "*." = true := by
  simp [hasPrefix, hp]

theorem hasPrefix_star_of_isHost (hp : IsHost p.toList) : hasPrefix p "*." = false := by
  cases hl : p.toList with
  | nil => exact absurd (hl ▸ hp) not_isHost_nil
  | cons c rest =>
    have hc : c ≠ '*' := by
      rintro rfl
      exact not_isHost_star rest (hl ▸ hp)
    simp [hasPrefix, hl, List.isPrefixOf, Ne.symm hc]

theorem ne_empty_of_isHost (hp : IsHost p.toList) : p ≠ "" := fun he =>
  not_isHost_nil (by simpa [he] using hp)

theorem ne_empty_of_wildcard (hp : p.toList = '*' :: '.' :: d) : p ≠ "" := fun he => by
  simp [he] at hp

theorem wildcardMatch_of_isHost (hp : IsHost p.toList) : wildcardMatch p q = false := by
  simp [wildcardMatch, hasPrefix_star_of_isHost hp]

/-- `*.d` admits what ends in `.d`. -/
theorem wildcardMatch_of_wildcard (hp : p.toList = '*' :: '.' :: d) :
    wildcardMatch p q = true ↔ ('.' :: d) <:+ q.toList := by
  have hstar : "*".length = 1 := rfl
  have htrim : (trimPrefix p "*").toList = '.' :: d := by
    simp [trimPrefix, hasPrefix, hp, hstar]
  simp [wildcardMatch, hasPrefix_star_of_wildcard hp, hasSuffix, htrim]

theorem ne_of_wildcard_isHost (hp : p.toList = '*' :: '.' :: d) (hq : IsHost q.toList) : q ≠ p := by
  rintro rfl
  exact not_isHost_star _ (hp ▸ hq)

end Tests

/-! ## What a hostname stands for -/

/-- The concrete hostnames with at least one label more than `d` that end in `.d`. -/
def underWildcard (d : List Char) : Set (List Char) := {h | ∃ x, IsHost x ∧ h = x ++ '.' :: d}

/-- The concrete hostnames a hostname of a listener or a route stands for. -/
def denote (p : String) : Set (List Char) :=
  match p.toList with
  | [] => {h | IsHost h}
  | '*' :: '.' :: d => underWildcard d
  | q => {q}

section Sets

variable {d d₁ d₂ : List Char}

theorem denote_empty : denote "" = {h | IsHost h} := by
  simp [denote]

theorem denote_of_wildcard {p : String} (hp : p.toList = '*' :: '.' :: d) : denote p = underWildcard d := by
  simp [denote, hp]

theorem denote_of_isHost {p : String} (hp : IsHost p.toList) : denote p = {p.toList} := by
  unfold denote
  split
  · next h => exact absurd (h ▸ hp) not_isHost_nil
  · next d h => exact absurd (h ▸ hp) (not_isHost_star _)
  · rfl

theorem mem_underWildcard (hd : IsHost d) {h : List Char} : h ∈ underWildcard d ↔ IsHost h ∧ ('.' :: d) <:+ h := by
  constructor
  · rintro ⟨x, hx, rfl⟩
    exact ⟨isHost_append_dot.2 ⟨hx, hd⟩, List.suffix_append x _⟩
  · rintro ⟨hh, x, rfl⟩
    exact ⟨x, (isHost_append_dot.1 hh).1, rfl⟩

theorem underWildcard_nonempty (d : List Char) : (underWildcard d).Nonempty :=
  ⟨['a'] ++ '.' :: d, ['a'], by unfold IsHost; decide, rfl⟩

/-- `*.y.d` stands for part of what `*.d` does. -/
theorem underWildcard_subset (hd₂ : IsHost d₂) (hs : ('.' :: d₁) <:+ d₂) : underWildcard d₂ ⊆ underWildcard d₁ := by
  rintro h ⟨x, hx, rfl⟩
  obtain ⟨y, rfl⟩ := hs
  have hy : IsHost y := (isHost_append_dot.1 hd₂).1
  exact ⟨x ++ '.' :: y, isHost_append_dot.2 ⟨hx, hy⟩, by simp⟩

theorem denote_subset_isHost {p : String} (hp : Shape p) : denote p ⊆ {h | IsHost h} := by
  cases hp with
  | empty => rw [denote_empty]
  | wildcard d hp hd =>
    rw [denote_of_wildcard hp]
    exact fun h hh => ((mem_underWildcard hd).1 hh).1
  | exact hp =>
    rw [denote_of_isHost hp]
    rintro h rfl
    exact hp

/-- Two wildcards meet exactly when one's domain ends the other's at a label. -/
theorem underWildcard_inter_nonempty_iff (hd₁ : IsHost d₁) (hd₂ : IsHost d₂) :
    (underWildcard d₁ ∩ underWildcard d₂).Nonempty ↔ d₁ = d₂ ∨ ('.' :: d₁) <:+ d₂ ∨ ('.' :: d₂) <:+ d₁ := by
  constructor
  · rintro ⟨h, h₁, h₂⟩
    have hs₁ := ((mem_underWildcard hd₁).1 h₁).2
    have hs₂ := ((mem_underWildcard hd₂).1 h₂).2
    rcases List.suffix_or_suffix_of_suffix hs₁ hs₂ with hs | hs
    · rcases List.suffix_cons_iff.1 hs with he | hs
      · exact .inl (List.cons.inj he).2
      · exact .inr (.inl hs)
    · rcases List.suffix_cons_iff.1 hs with he | hs
      · exact .inl (List.cons.inj he).2.symm
      · exact .inr (.inr hs)
  · rintro (rfl | hs | hs)
    · obtain ⟨h, hh⟩ := underWildcard_nonempty d₁
      exact ⟨h, hh, hh⟩
    · obtain ⟨h, hh⟩ := underWildcard_nonempty d₂
      exact ⟨h, underWildcard_subset hd₂ hs hh, hh⟩
    · obtain ⟨h, hh⟩ := underWildcard_nonempty d₁
      exact ⟨h, hh, underWildcard_subset hd₁ hs hh⟩

end Sets

/-! ## `match` and `GetMoreSpecificHostname` against the sets -/

/-- `match` tests that the two sets meet, and `GetMoreSpecificHostname` of two
that meet stands for their intersection. -/
def Agrees (listenerHost routeHost : String) : Prop :=
  («match» listenerHost routeHost = true ↔ (denote listenerHost ∩ denote routeHost).Nonempty) ∧
    («match» listenerHost routeHost = true →
      denote (getMoreSpecificHostname listenerHost routeHost) = denote listenerHost ∩ denote routeHost)

/-- `len(strings.Split(h, "."))` of a wildcard: one more than its domain's labels. -/
theorem splitCount_of_wildcard {p : String} {d : List Char} (hp : p.toList = '*' :: '.' :: d) :
    splitCount p = (d.splitOn '.').length + 1 := by
  have hsplit : ('*' :: '.' :: d).splitOn '.' = ['*'] :: d.splitOn '.' :=
    List.splitOn_append_cons_self ['*'] d
  simp [splitCount, hp, hsplit]

theorem splitCount_lt_of_suffix {p q : String} {d₁ d₂ : List Char} (hp : p.toList = '*' :: '.' :: d₁)
    (hq : q.toList = '*' :: '.' :: d₂) (hs : ('.' :: d₁) <:+ d₂) : splitCount p < splitCount q := by
  obtain ⟨y, rfl⟩ := hs
  have hy := List.length_pos_of_ne_nil (List.splitOn_ne_nil '.' y)
  rw [splitCount_of_wildcard hp, splitCount_of_wildcard hq, List.splitOn_append_cons_self, List.length_append]
  omega

section Agreement

variable {l r : String}

theorem Agrees.empty (hr : Shape r) (hne : r ≠ "") : Agrees "" r := by
  have hsub := denote_subset_isHost hr
  have hinter : denote "" ∩ denote r = denote r := by
    rw [denote_empty]
    exact Set.inter_eq_right.2 hsub
  have hnonempty : (denote r).Nonempty := by
    cases hr with
    | empty => exact absurd rfl hne
    | wildcard d hp hd => rw [denote_of_wildcard hp]; exact underWildcard_nonempty d
    | exact hp => rw [denote_of_isHost hp]; exact Set.singleton_nonempty _
  have hmore : getMoreSpecificHostname "" r = r := by
    simp [getMoreSpecificHostname, Ne.symm hne]
  refine ⟨?_, fun _ => ?_⟩
  · simp [«match», hinter, hnonempty]
  · rw [hmore, hinter]

theorem Agrees.exact_exact (hl : IsHost l.toList) (hr : IsHost r.toList) : Agrees l r := by
  have hmatch : «match» l r = true ↔ r = l := by
    simp [«match», ne_empty_of_isHost hl, wildcardMatch_of_isHost hl, wildcardMatch_of_isHost hr]
  rw [Agrees, hmatch, denote_of_isHost hl, denote_of_isHost hr, Set.singleton_inter_nonempty,
    Set.mem_singleton_iff, String.toList_inj]
  refine ⟨⟨Eq.symm, Eq.symm⟩, ?_⟩
  rintro rfl
  simp [getMoreSpecificHostname, denote_of_isHost hl]

theorem Agrees.exact_wildcard {d : List Char} (hl : IsHost l.toList) (hr : r.toList = '*' :: '.' :: d)
    (hd : IsHost d) : Agrees l r := by
  have hmatch : «match» l r = true ↔ ('.' :: d) <:+ l.toList := by
    simp [«match», ne_empty_of_isHost hl, (ne_of_wildcard_isHost hr hl).symm, wildcardMatch_of_isHost hl,
      wildcardMatch_of_wildcard hr]
  have hmore : getMoreSpecificHostname l r = l := by
    simp [getMoreSpecificHostname, ne_empty_of_isHost hl, hasPrefix_star_of_isHost hl,
      hasPrefix_star_of_wildcard hr]
  rw [Agrees, hmatch, hmore, denote_of_isHost hl, denote_of_wildcard hr, Set.singleton_inter_nonempty,
    mem_underWildcard hd, and_iff_right hl]
  refine ⟨Iff.rfl, fun hs => ?_⟩
  rw [Set.singleton_inter_of_mem ((mem_underWildcard hd).2 ⟨hl, hs⟩)]

theorem Agrees.wildcard_exact {d : List Char} (hl : l.toList = '*' :: '.' :: d) (hd : IsHost d)
    (hr : IsHost r.toList) : Agrees l r := by
  have hmatch : «match» l r = true ↔ ('.' :: d) <:+ r.toList := by
    simp [«match», ne_empty_of_wildcard hl, ne_of_wildcard_isHost hl hr, wildcardMatch_of_isHost hr,
      wildcardMatch_of_wildcard hl]
  have hmore : getMoreSpecificHostname l r = r := by
    simp [getMoreSpecificHostname, (ne_of_wildcard_isHost hl hr).symm, ne_empty_of_wildcard hl,
      ne_empty_of_isHost hr, hasPrefix_star_of_isHost hr, hasPrefix_star_of_wildcard hl]
  rw [Agrees, hmatch, hmore, denote_of_isHost hr, denote_of_wildcard hl, Set.inter_singleton_nonempty,
    mem_underWildcard hd, and_iff_right hr]
  refine ⟨Iff.rfl, fun hs => ?_⟩
  rw [Set.inter_singleton_of_mem ((mem_underWildcard hd).2 ⟨hr, hs⟩)]

/-- Of two different wildcards, `GetMoreSpecificHostname` keeps the one of
more labels, the route's on a tie. -/
theorem getMoreSpecificHostname_of_wildcards {d₁ d₂ : List Char} (hne : l ≠ r) (hl : l.toList = '*' :: '.' :: d₁)
    (hr : r.toList = '*' :: '.' :: d₂) :
    getMoreSpecificHostname l r = if splitCount l > splitCount r then l else r := by
  simp [getMoreSpecificHostname, hne, ne_empty_of_wildcard hl, ne_empty_of_wildcard hr,
    hasPrefix_star_of_wildcard hl, hasPrefix_star_of_wildcard hr]

theorem Agrees.wildcard_wildcard {d₁ d₂ : List Char} (hl : l.toList = '*' :: '.' :: d₁) (hd₁ : IsHost d₁)
    (hr : r.toList = '*' :: '.' :: d₂) (hd₂ : IsHost d₂) : Agrees l r := by
  have hsuffix {d d' : List Char} : ('.' :: d) <:+ ('*' :: '.' :: d') ↔ d = d' ∨ ('.' :: d) <:+ d' := by
    rw [List.suffix_cons_iff, List.suffix_cons_iff]
    simp
  have heq : r = l ↔ d₁ = d₂ := by
    rw [← String.toList_inj, hl, hr]
    simp [eq_comm]
  have hmatch : «match» l r = true ↔ d₁ = d₂ ∨ ('.' :: d₁) <:+ d₂ ∨ ('.' :: d₂) <:+ d₁ := by
    simp only [«match», Bool.or_eq_true, decide_eq_true_eq, ne_empty_of_wildcard hl, heq,
      wildcardMatch_of_wildcard hl, wildcardMatch_of_wildcard hr, hl, hr, hsuffix, false_or]
    constructor
    · rintro ((h | h | h) | h | h)
      · exact .inl h
      · exact .inl h
      · exact .inr (.inl h)
      · exact .inl h.symm
      · exact .inr (.inr h)
    · rintro (h | h | h)
      · exact .inl (.inl h)
      · exact .inl (.inr (.inr h))
      · exact .inr (.inr h)
  have hne_of_suffix {d d' : List Char} (hs : ('.' :: d) <:+ d') : d ≠ d' := by
    rintro rfl
    simpa using hs.length_le
  refine ⟨?_, fun hm => ?_⟩
  · rw [hmatch, denote_of_wildcard hl, denote_of_wildcard hr, underWildcard_inter_nonempty_iff hd₁ hd₂]
  · rw [denote_of_wildcard hl, denote_of_wildcard hr]
    rcases hmatch.1 hm with rfl | hs | hs
    · obtain rfl : r = l := heq.2 rfl
      simp [getMoreSpecificHostname, denote_of_wildcard hl]
    · have hne : l ≠ r := fun h => hne_of_suffix hs (heq.1 h.symm)
      rw [getMoreSpecificHostname_of_wildcards hne hl hr,
        if_neg (Nat.lt_asymm (splitCount_lt_of_suffix hl hr hs)), denote_of_wildcard hr]
      exact (Set.inter_eq_right.2 (underWildcard_subset hd₂ hs)).symm
    · have hne : l ≠ r := fun h => hne_of_suffix hs (heq.1 h.symm).symm
      rw [getMoreSpecificHostname_of_wildcards hne hl hr, if_pos (splitCount_lt_of_suffix hr hl hs),
        denote_of_wildcard hl]
      exact (Set.inter_eq_left.2 (underWildcard_subset hd₁ hs)).symm

/-- Every listener hostname and every non-empty route hostname agree. -/
theorem agrees_of_shape (hl : Shape l) (hr : Shape r) (hrne : r ≠ "") : Agrees l r := by
  cases hl with
  | empty => exact Agrees.empty hr hrne
  | wildcard d₁ hl hd₁ =>
    cases hr with
    | empty => exact absurd rfl hrne
    | wildcard d₂ hr hd₂ => exact Agrees.wildcard_wildcard hl hd₁ hr hd₂
    | exact hr => exact Agrees.wildcard_exact hl hd₁ hr
  | exact hl =>
    cases hr with
    | empty => exact absurd rfl hrne
    | wildcard d₂ hr hd₂ => exact Agrees.exact_wildcard hl hr hd₂
    | exact hr => exact Agrees.exact_exact hl hr

open Classical in
/-- The hostnames of the route that meet the listener's, each taken to the
intersection, stand for those intersections. -/
theorem map_denote_filter_match {l : String} (hl : Shape l) :
    ∀ routeHostnames : List String, (∀ r ∈ routeHostnames, validateHostname r = .ok ()) →
      ((routeHostnames.filter («match» l)).map (getMoreSpecificHostname l)).map denote =
        routeHostnames.filterMap fun r => if (denote l ∩ denote r).Nonempty then some (denote l ∩ denote r) else none
  | [], _ => rfl
  | r :: routeHostnames, hvalid => by
    have hr := hvalid r List.mem_cons_self
    have hagree := agrees_of_shape hl (shape_of_valid (.inr hr)) (ne_empty_of_validateHostname hr)
    have ih := map_denote_filter_match hl routeHostnames fun r' hr' => hvalid r' (List.mem_cons_of_mem r hr')
    by_cases hm : «match» l r = true
    · rw [List.filter_cons_of_pos hm, List.map_cons, List.map_cons, ih, hagree.2 hm]
      simp only [List.filterMap_cons, if_pos (hagree.1.1 hm)]
    · rw [List.filter_cons_of_neg hm, ih]
      simp only [List.filterMap_cons, if_neg (mt hagree.1.2 hm)]

end Agreement

open Classical in
theorem accepted_hostnames_denote_intersections {listenerHostname : Option String} {routeHostnames : List String}
    (hl : getHostname listenerHostname = "" ∨ validateHostname (getHostname listenerHostname) = .ok ())
    (hr : ∀ r ∈ routeHostnames, validateHostname r = .ok ()) :
    -- against every route hostname, `match` and `GetMoreSpecificHostname` are the sets' meeting and intersection
    (∀ r, validateHostname r = .ok () →
      («match» (getHostname listenerHostname) r = true ↔
          (denote (getHostname listenerHostname) ∩ denote r).Nonempty) ∧
        («match» (getHostname listenerHostname) r = true →
          denote (getMoreSpecificHostname (getHostname listenerHostname) r) =
            denote (getHostname listenerHostname) ∩ denote r)) ∧
      (routeHostnames ≠ [] →
        (findAcceptedHostnames listenerHostname routeHostnames).map denote =
          routeHostnames.filterMap fun r =>
            if (denote (getHostname listenerHostname) ∩ denote r).Nonempty then
              some (denote (getHostname listenerHostname) ∩ denote r)
            else none) ∧
      (routeHostnames = [] →
        findAcceptedHostnames listenerHostname routeHostnames =
          [if getHostname listenerHostname = "" then wildcardHostname else getHostname listenerHostname]) := by
  have hshape := shape_of_valid hl
  refine ⟨fun r hr => agrees_of_shape hshape (shape_of_valid (.inr hr)) (ne_empty_of_validateHostname hr),
    fun hne => ?_, fun he => ?_⟩
  · simp only [findAcceptedHostnames, if_neg hne]
    exact map_denote_filter_match hshape routeHostnames hr
  · subst he
    simp only [findAcceptedHostnames, if_true]
    split <;> rfl

open Classical in
theorem accepted_hostnames_on_wildcard_listener :
    (getHostname (some "*.example.com") = "" ∨ validateHostname (getHostname (some "*.example.com")) = .ok ()) ∧
      (∀ r ∈ ["a.example.com", "*.b.example.com", "example.org"], validateHostname r = .ok ()) ∧
      findAcceptedHostnames (some "*.example.com") ["a.example.com", "*.b.example.com", "example.org"] =
        ["a.example.com", "*.b.example.com"] ∧
      ["a.example.com", "*.b.example.com"].map denote =
        ["a.example.com", "*.b.example.com", "example.org"].filterMap fun r =>
          if (denote "*.example.com" ∩ denote r).Nonempty then some (denote "*.example.com" ∩ denote r) else none := by
  have hl : getHostname (some "*.example.com") = "" ∨
      validateHostname (getHostname (some "*.example.com")) = .ok () := .inr rfl
  have hr : ∀ r ∈ ["a.example.com", "*.b.example.com", "example.org"], validateHostname r = .ok () := by
    decide +kernel
  have hfind : findAcceptedHostnames (some "*.example.com") ["a.example.com", "*.b.example.com", "example.org"] =
      ["a.example.com", "*.b.example.com"] := by
    decide +kernel
  refine ⟨hl, hr, hfind, ?_⟩
  rw [← hfind]
  exact (accepted_hostnames_denote_intersections hl hr).2.1 (List.cons_ne_nil _ _)

end GatewayFabric.Graph
