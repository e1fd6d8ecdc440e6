/-
Hostnames of listeners and routes (`state/graph/route_common.go`,
`state/graph/validation.go`): the hostname check of a listener or a route
(`validateHostname`, over `k8s.io/apimachinery`'s `IsDNS1123Subdomain` and
`IsWildcardDNS1123Subdomain`), and the hostnames a route is accepted with on
a listener (`findAcceptedHostnames`, `match`, `GetMoreSpecificHostname`).

`strings.HasPrefix` and `strings.HasSuffix` compare bytes; on two UTF-8
strings that is the same as comparing characters, which is what is done
here. Go's `len` of a string is its byte count (`byteLength`).
-/
import GatewayFabric.Validation

namespace GatewayFabric.Graph

open Validation

/-! ## String helpers of the Go standard library -/

/-- `strings.HasPrefix(s, p)`. -/
def hasPrefix (s p : String) : Bool := p.toList.isPrefixOf s.toList

/-- `strings.HasSuffix(s, p)`. -/
def hasSuffix (s p : String) : Bool := p.toList.isSuffixOf s.toList

/-- `strings.TrimPrefix(s, p)`. -/
def trimPrefix (s p : String) : String :=
  if hasPrefix s p then String.ofList (s.toList.drop p.length) else s

/-- `len(strings.Split(s, "."))`. -/
def splitCount (s : String) : Nat := (s.toList.splitOn '.').length

/-! ## Hostname validation -/

def dns1123SubdomainMaxLength : Nat := 253
def dns1123LabelFmt : String := "[a-z0-9]([-a-z0-9]*[a-z0-9])?"
def dns1123SubdomainFmt : String := dns1123LabelFmt ++ "(\\." ++ dns1123LabelFmt ++ ")*"
def dns1123SubdomainErrorMsg : String :=
  "a lowercase RFC 1123 subdomain must consist of lower case alphanumeric characters, '-' or '.', " ++
    "and must start and end with an alphanumeric character"
def wildcardDNS1123SubdomainFmt : String := "\\*\\." ++ dns1123SubdomainFmt
def wildcardDNS1123SubdomainErrMsg : String :=
  "a wildcard DNS-1123 subdomain must start with '*.', followed by a valid DNS subdomain, which must " ++
    "consist of lower case alphanumeric characters, '-' or '.' and end with an alphanumeric character"

/-- `[a-z0-9]`. -/
def isLowerAlnum (c : Char) : Bool := ('a' ≤ c && c ≤ 'z') || ('0' ≤ c && c ≤ '9')

/-- `^[a-z0-9]([-a-z0-9]*[a-z0-9])?$`. -/
def isDNS1123Label (l : List Char) : Bool :=
  match l.head?, l.getLast? with
  | some a, some z => isLowerAlnum a && isLowerAlnum z && l.all (fun c => isLowerAlnum c || c = '-')
  | _, _ => false

/-- `^` `dns1123SubdomainFmt` `$`: labels separated by single dots. -/
def matchesDNS1123SubdomainFmt (cs : List Char) : Bool := (cs.splitOn '.').all isDNS1123Label

/-- `^` `wildcardDNS1123SubdomainFmt` `$`. -/
def matchesWildcardDNS1123SubdomainFmt : List Char → Bool
  | '*' :: '.' :: rest => matchesDNS1123SubdomainFmt rest
  | _ => false

/-- `validation.IsDNS1123Subdomain`: its error messages, none when valid. -/
def isDNS1123Subdomain (value : String) : List ValidationError :=
  (if byteLength value > dns1123SubdomainMaxLength then [.maxLen dns1123SubdomainMaxLength] else []) ++
    (if matchesDNS1123SubdomainFmt value.toList then []
     else [.regex dns1123SubdomainErrorMsg dns1123SubdomainFmt ["example.com"]])

/-- `validation.IsWildcardDNS1123Subdomain`. -/
def isWildcardDNS1123Subdomain (value : String) : List ValidationError :=
  (if byteLength value > dns1123SubdomainMaxLength then [.maxLen dns1123SubdomainMaxLength] else []) ++
    (if matchesWildcardDNS1123SubdomainFmt value.toList then []
     else [.regex wildcardDNS1123SubdomainErrMsg wildcardDNS1123SubdomainFmt ["*.example.com"]])

/-- `validateHostname` of the graph: the messages of the error are those
`strings.Join` puts together. -/
def validateHostname (hostname : String) : Except (List ValidationError) Unit :=
  if hostname = "" then .error [.message "cannot be empty string"]
  else if hasPrefix hostname "*." then
    match isWildcardDNS1123Subdomain hostname with
    | [] => .ok ()
    | msgs => .error msgs
  else
    match isDNS1123Subdomain hostname with
    | [] => .ok ()
    | msgs => .error msgs

/-- A word of lower-case letters and digits is one DNS label. -/
theorem isDNS1123Label_of_lowerAlnum {w : List Char} (hne : w ≠ []) (hall : w.all isLowerAlnum) :
    isDNS1123Label w := by
  have hmem : ∀ c ∈ w, isLowerAlnum c := by simpa using hall
  obtain ⟨a, rest, rfl⟩ := List.exists_cons_of_ne_nil hne
  have hlast := hmem _ (List.getLast_mem (List.cons_ne_nil a rest))
  simp only [isDNS1123Label, List.head?_cons, List.getLast?_eq_getLast_of_ne_nil (List.cons_ne_nil a rest),
    hmem a List.mem_cons_self, hlast, Bool.true_and, List.all_eq_true]
  exact fun c hc => by simp [hmem c hc]

/-- Every hostname that is one word of lower-case letters and digits, such
as `default` or `include`, passes the hostname check of listeners and
routes. -/
theorem validateHostname_of_lowerAlnum {h : String} (hne : h.toList ≠ []) (hall : h.toList.all isLowerAlnum)
    (hlen : byteLength h ≤ dns1123SubdomainMaxLength) : validateHostname h = .ok () := by
  have hnotEmpty : h ≠ "" := fun he => hne (by simp [he])
  have hdot : '.' ∉ h.toList := fun hd => by
    have := (List.all_eq_true.1 hall) '.' hd
    simp [isLowerAlnum] at this
  have hstar : hasPrefix h "*." = false := by
    obtain ⟨a, rest, hh⟩ := List.exists_cons_of_ne_nil hne
    have ha : isLowerAlnum a := (List.all_eq_true.1 hall) a (by simp [hh])
    have ha' : a ≠ '*' := by rintro rfl; simp [isLowerAlnum] at ha
    simp [hasPrefix, hh, List.isPrefixOf, Ne.symm ha']
  have hsplit : h.toList.splitOn '.' = [h.toList] := List.splitOn_eq_singleton hdot
  have hfmt : matchesDNS1123SubdomainFmt h.toList := by
    simp only [matchesDNS1123SubdomainFmt, hsplit, List.all_cons, List.all_nil, Bool.and_true]
    exact isDNS1123Label_of_lowerAlnum hne hall
  simp [validateHostname, hnotEmpty, hstar, isDNS1123Subdomain, hfmt, Nat.not_lt.2 hlen]

/-! ## Accepted hostnames -/

/-- `wildcardHostname`: the server name of a listener without a hostname. -/
def wildcardHostname : String := "~^"

/-- `getHostname`. -/
def getHostname : Option String → String
  | none => ""
  | some h => h

/-- The `wildcardMatch` closure of `match`: `host1` is `*.s` and `host2`
ends in `.s`. -/
def wildcardMatch (host1 host2 : String) : Bool :=
  hasPrefix host1 "*." && hasSuffix host2 (trimPrefix host1 "*")

/-- `match`: whether a listener hostname and a route hostname intersect. -/
def «match» (listenerHost routeHost : String) : Bool :=
  listenerHost = "" || routeHost = listenerHost || wildcardMatch listenerHost routeHost ||
    wildcardMatch routeHost listenerHost

/-- `GetMoreSpecificHostname`. -/
def getMoreSpecificHostname (hostname1 hostname2 : String) : String :=
  if hostname1 = hostname2 then hostname1
  else if hostname1 = "" then hostname2
  else if hostname2 = "" then hostname1
  else if hasPrefix hostname1 "*." then
    if hasPrefix hostname2 "*." then
      if splitCount hostname1 > splitCount hostname2 then hostname1 else hostname2
    else hostname2
  else if hasPrefix hostname2 "*." then hostname1
  else ""

/-- `findAcceptedHostnames`: the hostnames a route is accepted with on a
listener. -/
def findAcceptedHostnames (listenerHostname : Option String) (routeHostnames : List String) : List String :=
  let hostname := getHostname listenerHostname
  if routeHostnames = [] then
    if hostname = "" then [wildcardHostname] else [hostname]
  else
    (routeHostnames.filter («match» hostname)).map (getMoreSpecificHostname hostname)

/-- `removeHostnames`. -/
def removeHostnames (hostnames toRemove : List String) : List String :=
  hostnames.filter (· ∉ toRemove)

@[simp]
theorem mem_removeHostnames {h : String} {hostnames toRemove : List String} :
    h ∈ removeHostnames hostnames toRemove ↔ h ∈ hostnames ∧ h ∉ toRemove := by
  simp [removeHostnames]

end GatewayFabric.Graph
