import DVoD.MacClient.AppDelegate
import DVoD.Text.PercentEncoding

/-!
# Connect links

The `dvod://connect` link that the page of a session builds (`macOsConnectUrl` of
`lib/api.ts`), and what the app reads out of it: `URLComponents(string:)` cuts it as
RFC 3986 says, and `parseConnectURL` picks the items.  No token and no host can get in the
way of what stands behind them.
-/

namespace DVoD.MacClient

open DVoD.Text

/-! ### `URLComponents(string:)` -/

namespace URLComponents

def isUnreserved (c : Char) : Bool := c.isAlphanum || decide (c ∈ "-._~".toList)

def isSubDelim (c : Char) : Bool := decide (c ∈ "!$&'()*+,;=".toList)

/-- A character of a host that is a name; a percent sign has to begin an encoded byte. -/
def isHostCharacter (c : Char) : Bool := isUnreserved c || isSubDelim c || c = '%'

def isPathCharacter (c : Char) : Bool := isHostCharacter c || decide (c ∈ ":@/".toList)

/-- A character of a query or a fragment. -/
def isQueryCharacter (c : Char) : Bool := isPathCharacter c || c = '?'

def isScheme : List Char → Bool
  | [] => false
  | c :: s => c.isAlpha && s.all fun c => c.isAlphanum || decide (c ∈ "+-.".toList)

/-- What stands before the first character that is one of the stops, and the rest. -/
def upTo (stops : List Char) (s : List Char) : List Char × List Char := s.span (· ∉ stops)

def cutScheme (s : List Char) : Option (List Char) × List Char :=
  match upTo [':', '/', '?', '#'] s with
  | (c :: scheme, ':' :: rest) => (some (c :: scheme), rest)
  | _ => (none, s)

def cutAuthority : List Char → Option (List Char) × List Char
  | '/' :: '/' :: rest => (some (upTo ['/', '?', '#'] rest).1, (upTo ['/', '?', '#'] rest).2)
  | s => (none, s)

def cutQuery : List Char → Option (List Char) × List Char
  | '?' :: rest => (some (upTo ['#'] rest).1, (upTo ['#'] rest).2)
  | s => (none, s)

/-- A host that is a name, maybe with a port. -/
def hostOfAuthority (authority : List Char) : Option String :=
  let (host, port) := upTo [':'] authority
  if host.all isHostCharacter ∧ (port.drop 1).all Char.isDigit then
    (removingPercentEncoding host).map String.ofList
  else none

def queryItem (item : List Char) : Option (String × Option String) := do
  let (name, rest) := upTo ['='] item
  let name ← removingPercentEncoding name
  match rest with
  | [] => return (String.ofList name, none)
  | _ :: value => return (String.ofList name, some (String.ofList (← removingPercentEncoding value)))

def queryItemsOf (query : List Char) : Option (List (String × Option String)) :=
  if query = [] then some [] else (query.splitOn '&').mapM queryItem

/-- `none` where the text is not a URL of RFC 3986, its host is not a name, or the bytes
    that it encodes are not UTF-8. -/
def ofURL (s : List Char) : Option URLComponents := do
  let (scheme, rest) := cutScheme s
  let (authority, rest) := cutAuthority rest
  let (path, rest) := upTo ['?', '#'] rest
  let (query, fragment) := cutQuery rest
  if (scheme.all isScheme) ∧ path.all isPathCharacter ∧ (query.all (·.all isQueryCharacter)) ∧
      (fragment.drop 1).all isQueryCharacter ∧ (percentBytes path).isSome ∧ (percentBytes fragment).isSome then
    return {
      scheme := scheme.map String.ofList
      host := ← authority.mapM hostOfAuthority
      queryItems := ← query.mapM queryItemsOf }
  else none

/-- `other` is what it makes of other texts, which is up to the version of the system. -/
def ofString (other : String → Option URLComponents) (s : String) : Option URLComponents :=
  (ofURL s.toList).or (other s)

end URLComponents

/-! ### `lib/api.ts` -/

/-- The parameters in front are `TUNNEL_HOST` and `TUNNEL_PORT`. -/
def macOsConnectUrl (tunnelHost tunnelPort token : String) : String :=
  String.ofList ("dvod://connect?token=".toList ++ encodeURIComponent token.toList ++
    "&host=".toList ++ encodeURIComponent tunnelHost.toList ++ "&port=".toList ++ tunnelPort.toList)

theorem toList_macOsConnectUrl (tunnelHost tunnelPort token : String) :
    (macOsConnectUrl tunnelHost tunnelPort token).toList =
      "dvod://connect?".toList ++ ("token=".toList ++ encodeURIComponent token.toList ++ "&host=".toList ++
        encodeURIComponent tunnelHost.toList ++ "&port=".toList ++ tunnelPort.toList) := by
  have hstart : "dvod://connect?token=".toList = "dvod://connect?".toList ++ "token=".toList := by decide
  unfold macOsConnectUrl
  rw [String.toList_ofList, hstart]
  simp only [List.append_assoc]

/-! ### The round trip -/

namespace URLComponents

variable {stops s rest : List Char}

theorem upTo_of_forall (h : ∀ c ∈ s, c ∉ stops) : upTo stops s = (s, []) := by
  have hkeeps : ∀ c ∈ s, decide (c ∉ stops) = true := fun c hc => decide_eq_true (h c hc)
  rw [upTo, List.span_eq_takeWhile_dropWhile, List.takeWhile_eq_self_iff.mpr hkeeps,
    List.dropWhile_eq_nil_iff.mpr hkeeps]

theorem upTo_append_cons {c : Char} (h : ∀ c ∈ s, c ∉ stops) (hc : c ∈ stops) :
    upTo stops (s ++ c :: rest) = (s, c :: rest) := by
  have hkeeps : ∀ c ∈ s, decide (c ∉ stops) = true := fun c hc => decide_eq_true (h c hc)
  rw [upTo, List.span_eq_takeWhile_dropWhile, List.takeWhile_append_of_pos hkeeps,
    List.dropWhile_append_of_pos hkeeps]
  simp [hc]

/-- What a value of a query is made of where it was encoded, or is a port. -/
def IsValue (s : List Char) : Prop := ∀ c ∈ s, isUnescaped c = true ∨ c = '%' ∨ c = '+'

theorem IsValue.encodeURIComponent (s : List Char) : IsValue (encodeURIComponent s) := by
  intro c hc
  rcases mem_encodeURIComponent hc with h | h
  · exact Or.inl h
  · exact Or.inr (Or.inl h)

theorem IsValue.not_mem (h : IsValue s) {c : Char} (hc : isUnescaped c = false) (hpercent : c ≠ '%')
    (hplus : c ≠ '+') : c ∉ s := by
  intro hmem
  rcases h c hmem with h | h | h
  · exact absurd hc (by simp [h])
  · exact hpercent h
  · exact hplus h

theorem isQueryCharacter_of_isUnescaped {c : Char} (h : isUnescaped c = true) : isQueryCharacter c = true := by
  rw [isUnescaped, Bool.or_eq_true, decide_eq_true_eq] at h
  rcases h with h | h
  · simp only [isQueryCharacter, isPathCharacter, isHostCharacter, isUnreserved, h, Bool.true_or]
  · have hall : ("-_.!~*'()".toList.all isQueryCharacter) = true := by decide
    exact List.all_eq_true.mp hall c h

theorem IsValue.all_isQueryCharacter (h : IsValue s) : s.all isQueryCharacter = true := by
  rw [List.all_eq_true]
  intro c hc
  rcases h c hc with h | rfl | rfl
  · exact isQueryCharacter_of_isUnescaped h
  · decide
  · decide

theorem queryItem_append (name : List Char) {value decoded : List Char} (hname : '=' ∉ name) (hpercent : '%' ∉ name)
    (hvalue : removingPercentEncoding value = some decoded) :
    queryItem (name ++ '=' :: value) = some (String.ofList name, some (String.ofList decoded)) := by
  have hcut : upTo ['='] (name ++ '=' :: value) = (name, '=' :: value) := by
    apply upTo_append_cons
    · intro c hc hmem
      rw [List.mem_singleton.mp hmem] at hc
      exact hname hc
    · exact List.mem_singleton_self _
  simp only [queryItem, hcut, removingPercentEncoding_of_not_mem hpercent, hvalue, Option.bind_eq_bind,
    Option.bind_some, Option.pure_def]

theorem queryItemsOf_link {token host port token' host' port' : List Char} (htoken : IsValue token)
    (hhost : IsValue host) (hport : IsValue port) (htoken' : removingPercentEncoding token = some token')
    (hhost' : removingPercentEncoding host = some host') (hport' : removingPercentEncoding port = some port') :
    queryItemsOf ("token=".toList ++ token ++ "&host=".toList ++ host ++ "&port=".toList ++ port) =
      some [("token", some (String.ofList token')), ("host", some (String.ofList host')),
        ("port", some (String.ofList port'))] := by
  have hpieces : ("token=".toList ++ token ++ "&host=".toList ++ host ++ "&port=".toList ++ port).splitOn '&' =
      ["token".toList ++ '=' :: token, "host".toList ++ '=' :: host, "port".toList ++ '=' :: port] := by
    have hassoc : "token=".toList ++ token ++ "&host=".toList ++ host ++ "&port=".toList ++ port =
        ("token".toList ++ '=' :: token) ++ '&' :: (("host".toList ++ '=' :: host) ++
          '&' :: ("port".toList ++ '=' :: port)) := by
      simp
    have hamp {name value : List Char} (hname : '&' ∉ name) (hvalue : IsValue value) :
        '&' ∉ name ++ '=' :: value := by
      have hnot := hvalue.not_mem (c := '&') (by decide) (by decide) (by decide)
      simp [hname, hnot]
    rw [hassoc, List.splitOn_append_cons_self_of_not_mem (hamp (by decide) htoken),
      List.splitOn_append_cons_self_of_not_mem (hamp (by decide) hhost),
      List.splitOn_eq_singleton (hamp (by decide) hport)]
  rw [queryItemsOf, if_neg (by simp), hpieces]
  simp only [List.mapM_cons, List.mapM_nil, queryItem_append "token".toList (by decide) (by decide) htoken',
    queryItem_append "host".toList (by decide) (by decide) hhost',
    queryItem_append "port".toList (by decide) (by decide) hport', Option.bind_eq_bind,
    Option.bind_some, Option.pure_def, String.ofList_toList]

theorem ofURL_link {query : List Char} {items : List (String × Option String)}
    (hquery : query.all isQueryCharacter = true) (hitems : queryItemsOf query = some items) :
    ofURL ("dvod://connect?".toList ++ query) = some ⟨some "dvod", some "connect", some items⟩ := by
  have hscheme : cutScheme ("dvod://connect?".toList ++ query) =
      (some "dvod".toList, "//connect?".toList ++ query) := by
    have hcut : upTo [':', '/', '?', '#'] ("dvod".toList ++ ':' :: ("//connect?".toList ++ query)) =
        ("dvod".toList, ':' :: ("//connect?".toList ++ query)) :=
      upTo_append_cons (by simp) (by decide)
    rw [cutScheme, show "dvod://connect?".toList ++ query =
      "dvod".toList ++ ':' :: ("//connect?".toList ++ query) from rfl, hcut]
    rfl
  have hauthority : cutAuthority ("//connect?".toList ++ query) = (some "connect".toList, '?' :: query) := by
    have hcut : upTo ['/', '?', '#'] ("connect".toList ++ '?' :: query) = ("connect".toList, '?' :: query) :=
      upTo_append_cons (by simp) (by decide)
    rw [show "//connect?".toList ++ query = '/' :: '/' :: ("connect".toList ++ '?' :: query) from rfl,
      cutAuthority, hcut]
  have hpath : upTo ['?', '#'] ('?' :: query) = ([], '?' :: query) :=
    upTo_append_cons (s := []) (by nofun) (by decide)
  have hrest : cutQuery ('?' :: query) = (some query, []) := by
    have hcut : upTo ['#'] query = (query, []) := by
      apply upTo_of_forall
      intro c hc hmem
      rw [List.mem_singleton.mp hmem] at hc
      exact absurd (List.all_eq_true.mp hquery _ hc) (by decide)
    rw [cutQuery, hcut]
  have hhost : (some "connect".toList).mapM hostOfAuthority = some (some "connect") := by decide
  have hitems' : (some query).mapM queryItemsOf = some (some items) := by
    rw [Option.mapM_some, hitems]
    rfl
  have hvalid : (some "dvod".toList).all isScheme ∧ ([] : List Char).all isPathCharacter ∧
      (some query).all (·.all isQueryCharacter) ∧ ([].drop 1).all isQueryCharacter ∧
      (percentBytes []).isSome ∧ (percentBytes []).isSome :=
    ⟨by decide, rfl, hquery, rfl, rfl, rfl⟩
  simp only [ofURL, hscheme, hauthority, hpath, hrest]
  rw [if_pos hvalid, hhost, hitems']
  rfl

/-- A link has the three items that were put into it. -/
theorem ofString_macOsConnectUrl (other : String → Option URLComponents) (token tunnelHost : String)
    {tunnelPort : String} (hport : ∀ c ∈ tunnelPort.toList, isUnescaped c = true ∨ c = '+') :
    ofString other (macOsConnectUrl tunnelHost tunnelPort token) = some ⟨some "dvod", some "connect",
      some [("token", some token), ("host", some tunnelHost), ("port", some tunnelPort)]⟩ := by
  have hportValue : IsValue tunnelPort.toList := by
    intro c hc
    exact (hport c hc).imp_right Or.inr
  have hpercent : '%' ∉ tunnelPort.toList := by
    intro hc
    exact absurd (hport '%' hc) (by decide)
  have htokenValue := IsValue.encodeURIComponent token.toList
  have hhostValue := IsValue.encodeURIComponent tunnelHost.toList
  have hitems := queryItemsOf_link htokenValue hhostValue hportValue
    (removingPercentEncoding_encodeURIComponent _) (removingPercentEncoding_encodeURIComponent _)
    (removingPercentEncoding_of_not_mem hpercent)
  have hquery : ("token=".toList ++ Text.encodeURIComponent token.toList ++ "&host=".toList ++
      Text.encodeURIComponent tunnelHost.toList ++ "&port=".toList ++ tunnelPort.toList).all
        isQueryCharacter = true := by
    simp only [List.all_append, htokenValue.all_isQueryCharacter, hhostValue.all_isQueryCharacter,
      hportValue.all_isQueryCharacter, Bool.and_true]
    decide
  rw [ofString, toList_macOsConnectUrl, ofURL_link hquery hitems, Option.some_or]
  simp only [String.ofList_toList]

end URLComponents

/-- **A link says what it was made of.**  Whatever the token and the host are, and whatever
    the port is written like, the app takes from the link the token, the host and the port
    that the page put into it; it takes nothing where the port is not one. -/
theorem parseConnectURL_macOsConnectUrl (other : String → Option URLComponents)
    (token tunnelHost tunnelPort : String)
    (hport : ∀ c ∈ tunnelPort.toList, isUnescaped c = true ∨ c = '+') :
    parseConnectURL (URLComponents.ofString other (macOsConnectUrl tunnelHost tunnelPort token)) =
      (uint16OfString tunnelPort).map fun port => ⟨token, tunnelHost, port⟩ := by
  rw [URLComponents.ofString_macOsConnectUrl other token tunnelHost hport]
  cases hparsed : uint16OfString tunnelPort with
  | none => simp [parseConnectURL, hparsed]
  | some port => simp [parseConnectURL, hparsed]

theorem parseConnectURL_macOsConnectUrl_local :
    (∀ c ∈ "8443".toList, isUnescaped c = true ∨ c = '+') ∧
    parseConnectURL (URLComponents.ofString (fun _ => none) (macOsConnectUrl "127.0.0.1" "8443" "e30.c2ln&port=1")) =
      some ⟨"e30.c2ln&port=1", "127.0.0.1", 8443⟩ := by
  have hport : ∀ c ∈ "8443".toList, isUnescaped c = true ∨ c = '+' := by
    intro c hc
    have hall : "8443".toList.all isUnescaped = true := by decide
    exact Or.inl (List.all_eq_true.mp hall c hc)
  exact ⟨hport, parseConnectURL_macOsConnectUrl (fun _ => none) "e30.c2ln&port=1" "127.0.0.1" "8443" hport⟩

end DVoD.MacClient
