import Nxpod.PortAuth.Naming
import Nxpod.WsProxy.Request

/-!
# Sensitive Cookies

Before a request is forwarded to a user's port, the proxy takes the cookies
out that stand for a login: the session cookie, the port authorization cookies
and the owner cookies. It recognises them by their names.

The names are made elsewhere. The owner cookie is named by the proxy itself,
in the same way, so it is always recognised. The port authorization cookie is
named by a function of the front end, which replaces every run of characters
that are no letters or digits by one underscore, where the proxy replaces
three kinds of characters one by one. The two agree on a host name exactly
when it is tidy (`collapseRuns_eq_iff`).

On other host names the cookie is not recognised by accident either. The
proxy's prefix has as many letters and digits as the cookie's name has before
its suffix, so it cannot reach into the suffix.

## Main definitions

* `isSessionCookie`, `isPortAuthCookie`, `isOwnerCookie`: The cookies the proxy
  recognises, `isSensitive` all together.
* `removeSensitiveCookies`: The loop that takes them out, in place.
* `sensitiveCookieHandler`: The middleware.
* `tidyHost`: The host names on which the two sides agree.
* `RemovesPortAuth`: No port authorization cookie is forwarded.
* `Named`, `FiltersExactly`: The cookies named by either side, and that the
  handler removes these and no others.

## Theorems

* `removeSensitiveCookies_eq_filter`: The loop is a filter.
* `cookies_filterCookies`: What the port reads from the forwarded request.
* `collapseRuns_eq_iff`: Where both replacements come to the same.
* `portAuth_isSensitive_iff`: Where a port authorization cookie is recognised.
* `removesPortAuth_iff`: Where all of them are removed.
* `sensitiveCookieHandler_named`: What the handler forwards.
* `filters_not_exactly`: That it does not remove exactly what is named.
-/

namespace Nxpod

namespace WsProxy

open Cookies Router PortAuth

/-- The name of the session cookie, and what other sensitive cookies start
    with. -/
def hostnamePrefix (domain : String) : String := "_" ++ hostPart domain ++ "_"

/-- The simple case folding of a character to a letter of ASCII, where there
    is one. Outside ASCII only the Kelvin sign and the long s fold so. -/
def foldChar (c : Char) : Char :=
  if c.toNat = 0x212A then 'k' else if c.toNat = 0x17F then 's' else c.toLower

/-- `strings.EqualFold` for a first argument in ASCII. -/
def equalFold (s t : String) : Bool := s.toList.map foldChar = t.toList.map foldChar

/-- The cookie of the login to the installation itself, in any case of letters. -/
def isSessionCookie (domain : String) (c : Cookie) : Bool :=
  equalFold c.name (hostnamePrefix domain)

/-- The cookie is one of this host and of this kind. -/
def hasPrefixAndSuffix (domain suffix : String) (c : Cookie) : Bool :=
  (hostnamePrefix domain).toList.isPrefixOf c.name.toList &&
    suffix.toList.isSuffixOf c.name.toList

/-- The cookie that lets its bearer come to private ports. -/
def isPortAuthCookie (domain : String) : Cookie → Bool := hasPrefixAndSuffix domain "_port_auth_"

/-- The cookie with the owner token of some instance. -/
def isOwnerCookie (domain : String) : Cookie → Bool := hasPrefixAndSuffix domain "_owner_"

/-- What no program in a workspace is to see. -/
def isSensitive (domain : String) (c : Cookie) : Bool :=
  isSessionCookie domain c || isPortAuthCookie domain c || isOwnerCookie domain c

/-- One iteration of the loop. The slice is overwritten from its start with
    the cookies kept, of which there are `n` so far. -/
def removeStep (domain : String) (state : List Cookie × Nat) (i : Nat) : List Cookie × Nat :=
  match state.1[i]? with
  | none => state
  | some c => if isSensitive domain c then state else (state.1.set state.2 c, state.2 + 1)

/-- What stays is moved to the front, and the rest of the slice is cut off. -/
def removeSensitiveCookies (cookies : List Cookie) (domain : String) : List Cookie :=
  let (slice, n) := (List.range cookies.length).foldl (removeStep domain) (cookies, 0)
  slice.take n

/-- The request with the cookies that are left, one a header line. -/
def filterCookies (domain : String) (req : Request) : Request :=
  req.set "Cookie" ((removeSensitiveCookies req.cookies domain).map Cookie.string)

/-- The next handler gets the request without these cookies. -/
def sensitiveCookieHandler (domain : String) : Middleware Request Event := fun h req =>
  h (filterCookies domain req)

/-- After `i` iterations the cookies kept of the first `i` are in front, and
    the slice is unchanged from `i` on. -/
theorem removeStep_invariant (domain : String) (cookies : List Cookie) (i : Nat)
    (hi : i ≤ cookies.length) :
    let state := (List.range i).foldl (removeStep domain) (cookies, 0)
    state.2 ≤ i ∧ state.1.length = cookies.length ∧
      state.1.take state.2 = (cookies.take i).filter (!isSensitive domain ·) ∧
      state.1.drop i = cookies.drop i := by
  induction i with
  | zero => exact ⟨Nat.le_refl 0, rfl, rfl, rfl⟩
  | succ i ih =>
      rcases ih (by omega) with ⟨hn, hlength, htake, hdrop⟩
      simp only [List.range_succ, List.foldl_append, List.foldl_cons, List.foldl_nil]
      generalize (List.range i).foldl (removeStep domain) (cookies, 0) = state at *
      rcases state with ⟨slice, n⟩
      simp only at hn hlength htake hdrop
      have hlt : i < cookies.length := by omega
      -- the cookie read is the original one, since only the front was written
      have hread : slice[i]? = some cookies[i] := by
        rw [← List.getElem?_eq_getElem hlt, ← List.head?_drop, hdrop, List.head?_drop]
      have hrest : slice.drop (i + 1) = cookies.drop (i + 1) := by
        rw [← List.drop_drop, hdrop, List.drop_drop]
      have hfilter : (cookies.take (i + 1)).filter (!isSensitive domain ·) =
          slice.take n ++ [cookies[i]].filter (!isSensitive domain ·) := by
        rw [List.take_succ_eq_append_getElem hlt, List.filter_append, htake]
      rw [hfilter]
      simp only [removeStep, hread]
      by_cases hsensitive : isSensitive domain cookies[i] = true
      · rw [if_pos hsensitive, List.filter_cons_of_neg (by rw [hsensitive]; decide),
          List.filter_nil, List.append_nil]
        exact ⟨by omega, hlength, rfl, hrest⟩
      · rw [if_neg hsensitive, List.filter_cons_of_pos
          (by rw [Bool.eq_false_of_not_eq_true hsensitive]; rfl), List.filter_nil]
        refine ⟨by omega, by rw [List.length_set, hlength], ?_, ?_⟩
        · have hn' : n < (slice.set n cookies[i]).length := by rw [List.length_set]; omega
          rw [List.take_succ_eq_append_getElem hn', List.take_set_of_le (Nat.le_refl n),
            List.getElem_set_self]
        · rw [List.drop_set_of_lt (by omega), hrest]

/-- The loop keeps the other cookies, each once and in order. -/
theorem removeSensitiveCookies_eq_filter (domain : String) (cookies : List Cookie) :
    removeSensitiveCookies cookies domain = cookies.filter (!isSensitive domain ·) := by
  rcases removeStep_invariant domain cookies cookies.length (Nat.le_refl _) with ⟨_, _, htake, _⟩
  exact htake.trans (by rw [List.take_length])

/-- What the port reads from the request it gets. -/
theorem cookies_filterCookies (domain : String) (req : Request) :
    (filterCookies domain req).cookies = req.cookies.filter (!isSensitive domain ·) := by
  have hheader : (filterCookies domain req).header "Cookie" =
      (removeSensitiveCookies req.cookies domain).map Cookie.string := by
    simp only [filterCookies, Request.set, if_true]
  rw [Request.cookies, hheader, readCookies_map_string, removeSensitiveCookies_eq_filter]

/-- The URL of an installation. -/
def hostUrl (secure : Bool) (host : String) : String :=
  (if secure then "https" else "http") ++ "://" ++ host

/-- No character that is not a letter or digit follows another, and each is one
    the proxy replaces or an underscore. The flag says that one came before. -/
def tidy : Bool → List Char → Bool
  | _, [] => true
  | afterGap, c :: cs =>
    if c.isAlphanum then tidy false cs else !afterGap && hostChar c = '_' && tidy true cs

/-- The text does not start with a separator, has no two of them in a row, and
    has no other separators than spaces, dashes, dots and underscores. -/
def tidyHost (host : String) : Bool := tidy true host.toList

theorem length_collapseRuns_le (inRun : Bool) (cs : List Char) :
    (collapseRuns inRun cs).length ≤ cs.length := by
  induction cs generalizing inRun with
  | nil => exact Nat.le_refl 0
  | cons c cs ih =>
      have hout := ih false
      have hin := ih true
      rw [collapseRuns]
      split_ifs <;> simp only [List.length_cons] <;> omega

/-- Letters and digits are not replaced. -/
theorem hostChar_of_isAlphanum {c : Char} (h : c.isAlphanum = true) : hostChar c = c := by
  unfold hostChar
  rw [if_neg]
  rintro (rfl | rfl | rfl) <;> exact absurd h (by decide)

/-- The two replacements come to the same exactly on tidy texts. -/
theorem collapseRuns_eq_iff (inRun : Bool) (cs : List Char) :
    collapseRuns inRun cs = cs.map hostChar ↔ tidy inRun cs = true := by
  induction cs generalizing inRun with
  | nil => simp only [collapseRuns, List.map_nil, tidy]
  | cons c cs ih =>
      rw [collapseRuns, tidy, List.map_cons]
      by_cases hc : c.isAlphanum = true
      · rw [if_pos hc, if_pos hc, hostChar_of_isAlphanum hc, List.cons.injEq, ← ih]
        simp only [true_and]
      rw [if_neg hc, if_neg hc]
      cases inRun with
      | false =>
          simp only [Bool.false_eq_true, if_false, List.cons.injEq, ih, Bool.not_false,
            Bool.true_and, Bool.and_eq_true, decide_eq_true_eq]
          exact and_congr_left (fun _ => eq_comm)
      | true =>
          -- one replacement drops the character and the other does not
          have hlength := length_collapseRuns_le true cs
          simp only [if_true, Bool.not_true, Bool.false_and, Bool.false_eq_true, iff_false]
          intro h
          have hcount := congrArg List.length h
          rw [List.length_cons, List.length_map] at hcount
          omega

/-- A property of letters and digits is counted alike before and after the
    front end's replacement. -/
theorem countP_collapseRuns {p : Char → Bool} (hp : ∀ c, p c = true → c.isAlphanum = true)
    (inRun : Bool) (cs : List Char) : (collapseRuns inRun cs).countP p = cs.countP p := by
  induction cs generalizing inRun with
  | nil => rfl
  | cons c cs ih =>
      rw [collapseRuns]
      by_cases hc : c.isAlphanum = true
      · rw [if_pos hc, List.countP_cons, List.countP_cons, ih]
      · -- neither the character dropped nor the underscore counts
        have hnot : ¬ p c = true := fun h => hc (hp c h)
        have hunderscore : ¬ p '_' = true := fun h => absurd (hp '_' h) (by decide)
        rw [if_neg hc, List.countP_cons_of_neg hnot]
        split_ifs
        · exact ih true
        · rw [List.countP_cons_of_neg hunderscore, ih]

/-- And so it is by the proxy's. -/
theorem countP_map_hostChar {p : Char → Bool} (hp : ∀ c, p c = true → c.isAlphanum = true)
    (cs : List Char) : (cs.map hostChar).countP p = cs.countP p := by
  rw [List.countP_map]
  refine List.countP_congr (fun c _ => ?_)
  rw [Function.comp_apply]
  by_cases hc : c.isAlphanum = true
  · rw [hostChar_of_isAlphanum hc]
  · have hnot : ¬ p c = true := fun h => hc (hp c h)
    have hunderscore : ¬ p '_' = true := fun h => absurd (hp '_' h) (by decide)
    unfold hostChar
    split_ifs
    · exact ⟨fun h => absurd h hunderscore, fun h => absurd h hnot⟩
    · exact Iff.rfl

/-- What the names of the proxy begin with, letter by letter. -/
theorem hostnamePrefix_toList (domain : String) :
    (hostnamePrefix domain).toList = '_' :: domain.toList.map hostChar ++ ['_'] := by
  simp only [hostnamePrefix, String.toList_append, hostPart_eq]
  rfl

theorem ownerCookieName_toList (domain instanceID : String) :
    (ownerCookieName domain instanceID).toList =
      (hostnamePrefix domain).toList ++ ("ws_".toList ++ instanceID.toList) ++
        "_owner_".toList := by
  simp only [ownerCookieName, cookiePrefix, hostnamePrefix, String.toList_append, List.append_assoc]
  rfl

/-- The scheme and what follows it come to one underscore. -/
theorem worspacePortAuthCookieName_toList (secure : Bool) (host workspaceID : String) :
    (worspacePortAuthCookieName (hostUrl secure host) workspaceID).toList =
      '_' :: collapseRuns true host.toList ++
        ("_ws_".toList ++ workspaceID.toList ++ "_port_auth_".toList) := by
  have hcollapse : collapseRuns false (removeScheme (hostUrl secure host).toList) =
      '_' :: collapseRuns true host.toList := by
    cases secure <;> simp only [hostUrl, String.toList_append] <;> rfl
  simp only [worspacePortAuthCookieName, String.toList_append, String.toList_ofList, hcollapse,
    List.append_assoc]

/-- A text whose replacement by the proxy starts the cookie's name is one on
    which the replacements agree: there are as many letters and digits in both,
    so the former does not reach as far as the first letter behind the latter. -/
theorem collapseRuns_eq_of_append {cs rest rest' : List Char}
    (h : collapseRuns true cs ++ '_' :: 'w' :: rest = cs.map hostChar ++ '_' :: rest') :
    collapseRuns true cs = cs.map hostChar := by
  rcases List.append_eq_append_iff.mp h with ⟨more, hlong, hrest⟩ | ⟨more, hlong, _⟩
  · -- the proxy's text is longer by `more`, in which nothing may count
    have hcount := congrArg (List.countP Char.isAlphanum) hlong
    rw [List.countP_append, countP_map_hostChar (fun _ => id), countP_collapseRuns (fun _ => id)]
      at hcount
    match more, hrest with
    | [], _ => exact (hlong.trans (List.append_nil _)).symm
    | [c], hrest =>
        -- the letter would be an underscore
        simp only [List.singleton_append, List.cons.injEq] at hrest
        exact absurd hrest.2.1 (by decide)
    | c :: d :: more, hrest =>
        -- the letter would be counted
        simp only [List.cons_append, List.cons.injEq] at hrest
        rw [← hrest.2.1, List.countP_cons, List.countP_cons_of_pos (by decide)] at hcount
        omega
  · -- it cannot be shorter, as it has a character for every one of the host
    have hlength := length_collapseRuns_le true cs
    rw [hlong, List.length_append, List.length_map] at hlength
    rw [hlong, List.length_eq_zero_iff.mp (by omega : more.length = 0), List.append_nil]

/-- Only letters fold to a letter other than k and s. -/
theorem isAlphanum_of_foldChar {c : Char} (h : foldChar c = 'p') : c.isAlphanum = true := by
  unfold foldChar at h
  split_ifs at h with hkelvin hlong
  · exact absurd h (by decide)
  · exact absurd h (by decide)
  unfold Char.toLower at h
  by_cases hupper : c.isUpper = true
  · exact Bool.or_eq_true_iff.mpr (.inl (Bool.or_eq_true_iff.mpr (.inl hupper)))
  · rw [dif_neg fun hrange => hupper (decide_eq_true hrange)] at h
    rw [h]
    decide

/-- The name of a port authorization cookie is not the prefix, in whatever
    case: there is one p more in it. -/
theorem not_isSessionCookie {secure : Bool} {host workspaceID : String} {c : Cookie}
    (hname : c.name = worspacePortAuthCookieName (hostUrl secure host) workspaceID) :
    isSessionCookie host c = false := by
  let p : Char → Bool := fun d => foldChar d = 'p'
  have hp : ∀ d, p d = true → d.isAlphanum = true := fun d h =>
    isAlphanum_of_foldChar (of_decide_eq_true h)
  have hfold : ∀ cs : List Char, (cs.map foldChar).countP (· = 'p') = cs.countP p := fun cs =>
    List.countP_map
  have hsuffix : "_port_auth_".toList.countP p = 1 := by decide
  have hunderscore : ¬ p '_' = true := by decide
  refine decide_eq_false (fun h => ?_)
  have hcount := congrArg (List.countP (· = 'p')) h
  rw [hfold, hfold, hname, worspacePortAuthCookieName_toList, hostnamePrefix_toList,
    List.cons_append, List.cons_append, List.countP_cons_of_neg hunderscore,
    List.countP_cons_of_neg hunderscore] at hcount
  simp only [List.countP_append, hsuffix, countP_collapseRuns hp, countP_map_hostChar hp,
    List.countP_cons_of_neg hunderscore, List.countP_nil] at hcount
  omega

/-- A port authorization cookie is recognised exactly on tidy host names. -/
theorem portAuth_isSensitive_iff {secure : Bool} {host workspaceID : String} {c : Cookie}
    (hname : c.name = worspacePortAuthCookieName (hostUrl secure host) workspaceID) :
    isSensitive host c = true ↔ tidyHost host = true := by
  rw [tidyHost, ← collapseRuns_eq_iff]
  have htoList := congrArg String.toList hname
  rw [worspacePortAuthCookieName_toList] at htoList
  constructor
  · intro h
    -- whichever way it is recognised, the name starts with the prefix
    have hprefix : (hostnamePrefix host).toList.isPrefixOf c.name.toList = true := by
      simp only [isSensitive, not_isSessionCookie hname, isPortAuthCookie, isOwnerCookie,
        hasPrefixAndSuffix, Bool.false_or, ← Bool.and_or_distrib_left, Bool.and_eq_true] at h
      exact h.1
    rcases List.isPrefixOf_iff_prefix.mp hprefix with ⟨rest', hrest'⟩
    rw [htoList, hostnamePrefix_toList, List.cons_append, List.cons_append, List.cons_append,
      List.cons.injEq, List.append_assoc] at hrest'
    exact collapseRuns_eq_of_append hrest'.2.symm
  · intro h
    have hport : isPortAuthCookie host c = true := by
      rw [isPortAuthCookie, hasPrefixAndSuffix, Bool.and_eq_true, List.isPrefixOf_iff_prefix,
        List.isSuffixOf_iff_suffix, htoList, hostnamePrefix_toList, h]
      constructor
      · exact ⟨"ws_".toList ++ workspaceID.toList ++ "_port_auth_".toList, by
          simp only [List.append_assoc, List.cons_append, List.cons.injEq, true_and]; rfl⟩
      · exact ⟨_, List.append_assoc _ _ _⟩
    simp only [isSensitive, hport, Bool.or_true, Bool.true_or]

/-- The owner cookie is recognised on all host names. -/
theorem owner_isSensitive {host instanceID : String} {c : Cookie}
    (hname : c.name = ownerCookieName host instanceID) : isSensitive host c = true := by
  have howner : isOwnerCookie host c = true := by
    rw [isOwnerCookie, hasPrefixAndSuffix, Bool.and_eq_true, List.isPrefixOf_iff_prefix,
      List.isSuffixOf_iff_suffix, hname, ownerCookieName_toList]
    exact ⟨⟨_, (List.append_assoc _ _ _).symm⟩, ⟨_, rfl⟩⟩
  simp only [isSensitive, howner, Bool.or_true]

/-- Whatever the port gets, there is no port authorization cookie among it. -/
def RemovesPortAuth (secure : Bool) (host : String) : Prop :=
  ∀ workspaceID req, ∀ c ∈ (filterCookies host req).cookies,
    c.name ≠ worspacePortAuthCookieName (hostUrl secure host) workspaceID

/-- Letters, digits and underscores can be in a cookie's name. -/
theorem isTokenChar_of_isAlphanum {c : Char} (h : c.isAlphanum = true ∨ c = '_') :
    isTokenChar c = true := by
  rcases h with h | rfl
  · -- the letter z is the last one of them
    have hle : c.val ≤ 'z'.val := by
      rcases Bool.or_eq_true_iff.mp h with hletter | hdigit
      · rcases Bool.or_eq_true_iff.mp hletter with hupper | hlower
        · exact UInt32.le_trans (of_decide_eq_true hupper).2 (by decide)
        · exact of_decide_eq_true (Bool.and_eq_true_iff.mp hlower).2
      · exact UInt32.le_trans (of_decide_eq_true (Bool.and_eq_true_iff.mp hdigit).2) (by decide)
    have hcode : c.toNat < 0x7F :=
      Nat.lt_of_le_of_lt (UInt32.le_iff_toNat_le.mp hle) (by decide)
    simp only [isTokenChar, hcode, h, decide_true, Bool.true_or, Bool.and_self]
  · decide

/-- What comes out has only letters, digits and underscores. -/
theorem collapseRuns_chars (inRun : Bool) (cs : List Char) :
    ∀ c ∈ collapseRuns inRun cs, c.isAlphanum = true ∨ c = '_' := by
  induction cs generalizing inRun with
  | nil => exact fun c hc => absurd hc List.not_mem_nil
  | cons d cs ih =>
      intro c hc
      rw [collapseRuns] at hc
      split_ifs at hc with hd
      · rcases List.mem_cons.mp hc with rfl | hlater
        · exact Or.inl hd
        · exact ih false c hlater
      · exact ih true c hc
      · rcases List.mem_cons.mp hc with rfl | hlater
        · exact Or.inr rfl
        · exact ih true c hlater

/-- A cookie as the front end sets it. -/
def portAuthCookie (secure : Bool) (host : String) : Cookie where
  name := worspacePortAuthCookieName (hostUrl secure host) "a"
  value := "x"
  name_valid := by
    rw [isCookieNameValid, Bool.and_eq_true, decide_eq_true_eq]
    constructor
    · intro h
      have htoList := congrArg String.toList h
      rw [worspacePortAuthCookieName_toList] at htoList
      exact absurd htoList (List.cons_ne_nil _ _)
    · rw [worspacePortAuthCookieName_toList, List.cons_append, List.all_cons, List.all_append,
        Bool.and_eq_true, Bool.and_eq_true, List.all_eq_true]
      exact ⟨by decide, fun c hc => isTokenChar_of_isAlphanum (collapseRuns_chars true _ c hc),
        by decide⟩
  value_valid := by decide

/-- The port authorization cookies are removed exactly on tidy host names. -/
theorem removesPortAuth_iff (secure : Bool) (host : String) :
    RemovesPortAuth secure host ↔ tidyHost host = true := by
  constructor
  · intro h
    let c := portAuthCookie secure host
    let req : Request :=
      { method := "GET", host := host, path := "/", header := fun _ => [c.string] }
    by_contra htidy
    -- the cookie is the only one of the request, and it is kept
    have hname : c.name = worspacePortAuthCookieName (hostUrl secure host) "a" := rfl
    have hcookies : req.cookies = [c] := readCookies_map_string [c]
    have hkept : isSensitive host c = false :=
      Bool.eq_false_of_not_eq_true (fun hs => htidy ((portAuth_isSensitive_iff hname).mp hs))
    have hforwarded : c ∈ (filterCookies host req).cookies := by
      rw [cookies_filterCookies, hcookies, List.mem_filter, hkept]
      exact ⟨List.mem_singleton_self c, rfl⟩
    exact h "a" req c hforwarded hname
  · intro htidy workspaceID req c hc hname
    rw [cookies_filterCookies, List.mem_filter,
      (portAuth_isSensitive_iff hname).mpr htidy] at hc
    exact absurd hc.2 (by decide)

/-- The handler forwards the cookies that are not sensitive, each once and in
    order. No owner cookie is among them, and on a tidy host name no port
    authorization cookie either, so a program that runs in a workspace does not
    come to see what would let it into another one. -/
theorem sensitiveCookieHandler_named (secure : Bool) (host : String) (req : Request) :
    ∃ fwd, (∀ h, sensitiveCookieHandler host h req = h fwd) ∧
      fwd.cookies = req.cookies.filter (!isSensitive host ·) ∧
      (∀ instanceID, ∀ c ∈ fwd.cookies, c.name ≠ ownerCookieName host instanceID) ∧
      (tidyHost host = true → ∀ workspaceID, ∀ c ∈ fwd.cookies,
        c.name ≠ worspacePortAuthCookieName (hostUrl secure host) workspaceID) := by
  refine ⟨filterCookies host req, fun _ => rfl, cookies_filterCookies host req, ?_, ?_⟩
  · intro instanceID c hc hname
    rw [cookies_filterCookies, List.mem_filter, owner_isSensitive hname] at hc
    exact absurd hc.2 (by decide)
  · intro htidy workspaceID
    exact (removesPortAuth_iff secure host).mpr htidy workspaceID req

/-- A request with the session cookie and a port authorization cookie. -/
def sessionRequest : Request where
  method := "GET"
  host := "3000-ws.ws-eu01.nxpod.khulnasoft.com"
  path := "/"
  header := fun name => if name = "Cookie" then
    ["_nxpod_khulnasoft_com_=x; _nxpod_khulnasoft_com_ws_a_port_auth_=y; theme=dark"] else []

/-- The name of an installation is tidy. -/
theorem sensitiveCookieHandler_named_nxpod :
    ∃ fwd, (∀ h, sensitiveCookieHandler "nxpod.khulnasoft.com" h sessionRequest = h fwd) ∧
      fwd.cookies.map Cookie.name = ["theme"] ∧ ∀ workspaceID, ∀ c ∈ fwd.cookies,
        c.name ≠ worspacePortAuthCookieName (hostUrl true "nxpod.khulnasoft.com") workspaceID := by
  rcases sensitiveCookieHandler_named true "nxpod.khulnasoft.com" sessionRequest with
    ⟨fwd, hfwd, hcookies, _, hport⟩
  exact ⟨fwd, hfwd, by rw [hcookies]; decide +kernel, hport (by decide +kernel)⟩

/-- The cookie is named by the front end or by the proxy. -/
def Named (secure : Bool) (host : String) (c : Cookie) : Prop :=
  (∃ workspaceID, c.name = worspacePortAuthCookieName (hostUrl secure host) workspaceID) ∨
    ∃ instanceID, c.name = ownerCookieName host instanceID

/-- The port gets the cookies of the request but those in question. -/
def FiltersExactly (removed : Cookie → Prop) (host : String) : Prop :=
  ∀ req, ∃ keep : Cookie → Bool, (∀ c, keep c = true ↔ ¬ removed c) ∧
    (filterCookies host req).cookies = req.cookies.filter keep

/-- What is named is longer than the prefix. -/
theorem length_lt_of_named {secure : Bool} {host : String} {c : Cookie}
    (h : Named secure host c) :
    (collapseRuns true host.toList).length + 2 < c.name.toList.length := by
  have hle := length_collapseRuns_le true host.toList
  rcases h with ⟨workspaceID, hname⟩ | ⟨instanceID, hname⟩
  · rw [hname, worspacePortAuthCookieName_toList]
    simp only [List.length_append, List.length_cons, String.reduceToList, List.length_nil]
    omega
  · rw [hname, ownerCookieName_toList, hostnamePrefix_toList]
    simp only [List.length_append, List.length_cons, List.length_map, String.reduceToList,
      List.length_nil]
    omega

/-- The handler removes the session cookie as well, and on some host name it
    forwards a port authorization cookie: the front end makes one underscore
    of the two dashes. -/
theorem filters_not_exactly :
    ¬ FiltersExactly (Named true "nxpod.khulnasoft.com") "nxpod.khulnasoft.com" ∧
      ¬ RemovesPortAuth true "nxpod.xn--mnchen-3ya.de" := by
  constructor
  · intro h
    rcases h sessionRequest with ⟨keep, hkeep, hcookies⟩
    let session : Cookie := ⟨"_nxpod_khulnasoft_com_", "x", by decide, by decide⟩
    -- the session cookie is too short to be named, so it should be kept
    have hunnamed : keep session = true := by
      rw [hkeep]
      exact fun hnamed => absurd (length_lt_of_named hnamed) (by decide +kernel)
    have hread : session ∈ sessionRequest.cookies := by decide +kernel
    have hkept := List.mem_filter.mpr ⟨hread, hunnamed⟩
    rw [← hcookies] at hkept
    have hgone : session ∉ (filterCookies "nxpod.khulnasoft.com" sessionRequest).cookies := by
      decide +kernel
    exact hgone hkept
  · rw [removesPortAuth_iff]
    decide

end WsProxy

end Nxpod
