import Cutroom.Web.Url
import Mathlib.Data.List.TakeDrop
import Mathlib.Data.List.TakeWhile

/-! An address that goes on behind a slash. All that is read before the path, and the path up to the slash, is the same
    whatever follows (`Url.web?_behind`): the reading of each part of the address stops at the slash at the latest. -/

namespace Cutroom
namespace Url

/-! ### Stopping at a slash -/

theorem span_append_cons {p : Char → Bool} {y : Char} (hy : p y = false) (xs ys : List Char) :
    (xs ++ y :: ys).span p = ((xs.span p).1, (xs.span p).2 ++ y :: ys) := by
  simp only [List.span_eq_takeWhile_dropWhile]
  induction xs with
  | nil => simp [hy]
  | cons x xs ih =>
    cases hx : p x
    · simp [hx]
    · simpa [hx] using ih

theorem dropWhile_append_cons {p : Char → Bool} {y : Char} (hy : p y = false) (xs ys : List Char) :
    (xs ++ y :: ys).dropWhile p = xs.dropWhile p ++ y :: ys := by
  have h := congrArg Prod.snd (span_append_cons hy xs ys)
  simpa only [List.span_eq_takeWhile_dropWhile] using h

theorem span_append (p : Char → Bool) (cs : List Char) : (cs.span p).1 ++ (cs.span p).2 = cs := by
  rw [List.span_eq_takeWhile_dropWhile, List.takeWhile_append_dropWhile]

theorem schemeOf?_slash (b r : List Char) :
    schemeOf? (b ++ '/' :: r) = (schemeOf? b).map fun s => (s.1, s.2 ++ '/' :: r) := by
  unfold schemeOf?
  rw [span_append_cons (by decide)]
  rcases b.span isSchemeChar with ⟨name, rest⟩
  cases name with
  | nil => rfl
  | cons c name =>
    cases rest with
    | nil => rfl
    | cons d rest =>
      by_cases hd : d = ':'
      · subst hd
        simp only [List.cons_append]
        split <;> rfl
      · simp [hd]

theorem schemeOf?_suffix {b : List Char} {s : List Char × List Char} (h : schemeOf? b = some s) : s.2 <:+ b := by
  have hcut := span_append isSchemeChar b
  unfold schemeOf? at h
  split at h
  · rename_i c name rest hspan
    rw [hspan] at hcut
    split at h
    · cases h
      exact ⟨c :: name ++ [':'], by simpa using hcut⟩
    · cases h
  · cases h

theorem spanHost_slash (k : Kind) (b r : List Char) : ∀ inBrackets,
    spanHost k inBrackets (b ++ '/' :: r) =
      ((spanHost k inBrackets b).1, (spanHost k inBrackets b).2 ++ '/' :: r) := by
  induction b with
  | nil => exact fun _ => rfl
  | cons c b ih =>
    intro inBrackets
    simp only [List.cons_append, spanHost]
    split
    · rfl
    · rw [ih]

theorem spanHost_suffix (k : Kind) (b : List Char) : ∀ inBrackets, (spanHost k inBrackets b).2 <:+ b := by
  induction b with
  | nil => exact fun _ => List.suffix_rfl
  | cons c b ih =>
    intro inBrackets
    unfold spanHost
    split
    · exact List.suffix_rfl
    · exact (ih _).trans (List.suffix_cons c b)

theorem endpointOf?_slash (usual : Option Nat) (b r : List Char) :
    endpointOf? usual (b ++ '/' :: r) = (endpointOf? usual b).map fun s => (s.1, s.2 ++ '/' :: r) := by
  unfold endpointOf?
  rw [span_append_cons (by decide)]
  rcases b.span Decimal.isDigit with ⟨digits, rest⟩
  have hhead : (((rest ++ '/' :: r).head?.map fun c => !endsAuthority .web c).getD false) =
      ((rest.head?.map fun c => !endsAuthority .web c).getD false) := by
    cases rest <;> rfl
  dsimp only
  rw [hhead]
  split <;> rfl

theorem endpointOf?_suffix {usual : Option Nat} {b : List Char} {s : Option Nat × List Char}
    (h : endpointOf? usual b = some s) : s.2 <:+ b := by
  have hcut := span_append Decimal.isDigit b
  unfold endpointOf? at h
  dsimp only at h
  split at h
  · cases h
  · cases h
    exact ⟨_, hcut⟩

/-- An at sign without a name in front of it is refused only where a host has to follow, so that here more has to be
    known than what stands before the slash: that something follows. --/
theorem userOf?_slash (k : Kind) (b : List Char) : ∃ user : Option (List Char × Option (List Char) × List Char),
    (∀ s ∈ user, s.2.2 <:+ b) ∧
      ∀ r, userOf? k (b ++ '/' :: r) = user.map fun s => (s.1, s.2.1, s.2.2 ++ '/' :: r) := by
  have hspan (r) := span_append_cons (p := fun c => !endsAuthority k c) (y := '/') rfl b r
  have hcut := span_append (fun c => !endsAuthority k c) b
  unfold userOf?
  simp only [hspan]
  generalize (b.span fun c => !endsAuthority k c) = cut at hcut ⊢
  obtain ⟨authority, path⟩ := cut
  have hat := span_append (· != '@') authority.reverse
  rcases hsplit : authority.reverse.span (· != '@') with ⟨host, _ | ⟨c, info⟩⟩
  · exact ⟨some ([], none, b), by simp, fun r => by simp⟩
  · rw [hsplit] at hat
    have hrest : host.reverse ++ path <:+ b := by
      have hauthority : authority = info.reverse ++ [c] ++ host.reverse := by
        simpa using (congrArg List.reverse hat).symm
      exact ⟨info.reverse ++ [c], by rw [← hcut, hauthority]; simp⟩
    let named := info.reverse.span (· != ':')
    let password := if (named.2.drop 1).isEmpty then none else some (named.2.drop 1)
    cases hempty : info.isEmpty && host.isEmpty
    · exact ⟨some (named.1, password, host.reverse ++ path), by simpa using hrest, fun r => by
        simp [hempty, named, password]⟩
    · exact ⟨none, by simp, fun r => by simp [hempty]⟩

/-! ### Addresses of the web -/

theorem spanHost_head (k : Kind) (b : List Char) : ∀ inBrackets, ∀ c ∈ (spanHost k inBrackets b).2.head?,
    endsAuthority k c ∨ c = ':' := by
  induction b with
  | nil => exact fun _ _ h => by cases h
  | cons d b ih =>
    intro inBrackets c hc
    unfold spanHost at hc
    split at hc
    · rename_i hends
      cases hc
      simp only [Bool.or_eq_true, Bool.and_eq_true, decide_eq_true_eq] at hends
      exact hends.imp_right (·.1)
    · exact ih _ c hc

theorem endpointOf?_head {usual : Option Nat} {b : List Char} {s : Option Nat × List Char}
    (h : endpointOf? usual b = some s) : ∀ c ∈ s.2.head?, endsAuthority .web c := by
  unfold endpointOf? at h
  dsimp only at h
  split at h
  · cases h
  · rename_i hends
    cases h
    intro c hc
    rw [Option.mem_def] at hc
    simp only [hc, Option.map_some, Option.getD_some, Bool.or_eq_true, Bool.not_eq_true', not_or,
      Bool.not_eq_false] at hends
    exact hends.1

/-- The endpoint behind a host, and what follows it. --/
def endpointAt? (usual : Option Nat) (cs : List Char) : Option (Option Nat × List Char) :=
  if cs.head? = some ':' then endpointOf? usual (cs.drop 1) else some (none, cs)

/-- The address at a host, of the endpoint and what follows it. --/
def placed (k : Kind) (scheme : String) (host : Host) (user : List Char) (password : Option (List Char))
    (s : Option Nat × List Char) : Url :=
  { ofTail k scheme (some host) (pathAtHost k) s.2 with
    user := String.ofList (Percent.encode notInUser user)
    password := password.map fun cs => String.ofList (Percent.encode notInUser cs)
    endpoint := s.1 }

theorem ofAuthority?_eq (k : Kind) (scheme : String) (cs : List Char) :
    ofAuthority? k scheme cs = (userOf? k cs).bind fun u => (hostOf? k (spanHost k false u.2.2).1).bind fun host =>
      if (spanHost k false u.2.2).1.isEmpty &&
          (decide ((spanHost k false u.2.2).2.head? = some ':') || !u.1.isEmpty || u.2.1.isSome) then none
      else (endpointAt? (usualEndpoints.lookup scheme) (spanHost k false u.2.2).2).map
        (placed k scheme host u.1 u.2.1) := by
  unfold ofAuthority? endpointAt?
  congr
  funext ⟨user, password, rest⟩
  dsimp only
  congr
  funext host
  by_cases hcolon : (spanHost k false rest).2.head? = some ':'
  · simp only [hcolon, if_true, Option.isSome_some, decide_true, Option.map_some, Option.getD_some]
    split
    · rfl
    · exact (Option.map_eq_bind).symm
  · simp only [hcolon, if_false, Option.isSome_none, decide_false, Option.map_none, Option.getD_none]
    split <;> rfl

theorem endpointAt?_slash (usual : Option Nat) (b r : List Char) :
    endpointAt? usual (b ++ '/' :: r) = (endpointAt? usual b).map fun s => (s.1, s.2 ++ '/' :: r) := by
  unfold endpointAt?
  cases b with
  | nil => rfl
  | cons c b =>
    simp only [List.cons_append, List.head?_cons, List.drop_succ_cons, List.drop_zero, endpointOf?_slash]
    split <;> rfl

theorem head?_slash (b r : List Char) : (b ++ '/' :: r).head? = some ':' ↔ b.head? = some ':' := by
  cases b with
  | nil => simp
  | cons => rfl

theorem endpointAt?_rest {usual : Option Nat} {b : List Char} {s : Option Nat × List Char}
    (hb : ∀ c ∈ b.head?, endsAuthority .web c ∨ c = ':') (h : endpointAt? usual b = some s) :
    s.2 <:+ b ∧ ∀ c ∈ s.2.head?, endsAuthority .web c := by
  unfold endpointAt? at h
  split at h
  · exact ⟨(endpointOf?_suffix h).trans (List.drop_suffix 1 b), endpointOf?_head h⟩
  · rename_i hcolon
    cases h
    refine ⟨List.suffix_rfl, fun c hc => (hb c hc).resolve_right ?_⟩
    rintro rfl
    exact hcolon hc

/-- What stands behind the host and its endpoint starts with what ends them. --/
theorem ofAuthority?_slash (scheme : String) (b : List Char) :
    (∀ r, ofAuthority? .web scheme (b ++ '/' :: r) = none) ∨
      ∃ host user password endpoint rest, rest <:+ b ∧ (∀ c ∈ rest.head?, endsAuthority .web c) ∧
        ∀ r, ofAuthority? .web scheme (b ++ '/' :: r) =
          some (placed .web scheme host user password (endpoint, rest ++ '/' :: r)) := by
  obtain ⟨user, hsuffix, huser⟩ := userOf?_slash .web b
  cases user with
  | none => exact .inl fun r => by rw [ofAuthority?_eq, huser]; rfl
  | some u =>
    have hname := spanHost_suffix .web u.2.2 false
    have hhead := spanHost_head .web u.2.2 false
    simp only [ofAuthority?_eq, huser, Option.map_some, Option.bind_some, spanHost_slash, head?_slash]
    generalize spanHost .web false u.2.2 = cut at hname hhead ⊢
    cases hostOf? .web cut.1 with
    | none => exact .inl fun _ => rfl
    | some host =>
      simp only [Option.bind_some, endpointAt?_slash]
      split
      · exact .inl fun _ => rfl
      · cases hendpoint : endpointAt? (usualEndpoints.lookup scheme) cut.2 with
        | none => exact .inl fun _ => rfl
        | some s =>
          obtain ⟨hrest, hends⟩ := endpointAt?_rest hhead hendpoint
          exact .inr ⟨host, u.1, u.2.1, s.1, s.2, (hrest.trans hname).trans (hsuffix u rfl), hends, fun _ => rfl⟩

/-! ### The path behind the slash -/

theorem parts_ne_nil (k : Kind) (cs : List Char) : parts k cs ≠ [] := by
  unfold parts
  split
  · exact List.cons_ne_nil _ _
  · split
    · exact List.cons_ne_nil _ _
    · split <;> exact List.cons_ne_nil _ _

theorem parts_slash (k : Kind) (x t : List Char) : parts k (x ++ '/' :: t) = parts k x ++ parts k t := by
  have hslash : isSlash k '/' = true := rfl
  induction x with
  | nil => simp [parts, hslash]
  | cons c x ih =>
    obtain ⟨part, rest, hparts⟩ := List.exists_cons_of_ne_nil (parts_ne_nil k x)
    rw [hparts] at ih
    simp only [List.cons_append, parts, ih, hparts]
    split <;> rfl

/-- Goes along one part of a path that is not the last one. --/
def along (k : Kind) (done : List (List Char)) (part : List Char) : List (List Char) :=
  if isDot part then done else if isDotDot part then back done else forth k done part

theorem resolve_append (k : Kind) {rest : List (List Char)} (hrest : rest ≠ []) :
    ∀ {ps done : List (List Char)}, resolve k done (ps ++ rest) = resolve k (ps.foldl (along k) done) rest := by
  intro ps
  induction ps with
  | nil => exact fun {_} => rfl
  | cons part ps ih =>
    intro done
    obtain ⟨next, more, hmore⟩ := List.exists_cons_of_ne_nil (List.append_ne_nil_of_right_ne_nil ps hrest)
    rw [List.foldl_cons, ← ih, List.cons_append, hmore, resolve, along]
    split
    · rfl
    · split <;> rfl
    · exact List.cons_ne_nil _ _

theorem splitAt_of_notMem {c : Char} {cs : List Char} (h : c ∉ cs) : splitAt c cs = (cs, none) := by
  have hkeeps : ∀ d ∈ cs, (d != c) = true := fun d hd => bne_iff_ne.mpr fun hdc => h (hdc ▸ hd)
  unfold splitAt
  rw [List.span_eq_takeWhile_dropWhile, List.takeWhile_eq_self_iff.mpr hkeeps, List.dropWhile_eq_nil_iff.mpr hkeeps]

/-- Without the marks of a query and a fragment, all is path. --/
theorem ofTail_of_notMem (k : Kind) (scheme : String) (host : Option Host) (path : List Char → List Char)
    {cs : List Char} (hquery : '?' ∉ cs) (hfragment : '#' ∉ cs) :
    ofTail k scheme host path cs = ⟨scheme, "", none, host, none, String.ofList (path cs), none, none⟩ := by
  unfold ofTail
  rw [splitAt_of_notMem hfragment]
  dsimp only
  rw [splitAt_of_notMem hquery]
  rfl

/-- The parts of a path in their normal form, behind those that were gone along before. --/
def pathBehind (done : List (List Char)) (t : List Char) : List Char :=
  pathChars (resolve .web done ((parts .web t).map (Percent.encode notInPath)))

theorem pathAtHost_slash {rest : List Char} (hends : ∀ c ∈ rest.head?, isSlash .web c) :
    ∃ done, ∀ t, pathAtHost .web (rest ++ '/' :: t) = pathBehind done t := by
  cases rest with
  | nil => exact ⟨[], fun _ => rfl⟩
  | cons c x =>
    have hslash : isSlash .web c = true := hends c rfl
    refine ⟨((parts .web x).map (Percent.encode notInPath)).foldl (along .web) [], fun t => ?_⟩
    have hparts : (parts .web t).map (Percent.encode notInPath) ≠ [] :=
      fun h => parts_ne_nil .web t (List.map_eq_nil_iff.mp h)
    simp only [pathAtHost, normalParts, behindSlash, List.cons_append, hslash, if_true, parts_slash, List.map_append,
      resolve_append _ hparts]
    rfl

/-! ### The whole address -/

/-- Characters that end the path of an address, or are dropped from it. --/
def cutsPath (c : Char) : Bool := ['?', '#', '\t', '\n', '\r'].contains c

/-- The end of an address that belongs to its path as it stands. --/
structure Settled (t : List Char) : Prop where
  plain : ∀ c ∈ t, cutsPath c = false
  last : ∃ c ∈ t.getLast?, 0x20 < c.toNat

theorem plain_of_all {p : Char → Bool} {cs : List Char} (h : (cs.all fun c => !p c) = true) : ∀ c ∈ cs, p c = false := by
  simpa using h

theorem Settled.notMem {t : List Char} (h : Settled t) {c : Char} (hc : cutsPath c = true) : c ∉ t :=
  fun hmem => by
    rw [h.plain c hmem] at hc
    cases hc

theorem Settled.behind {t : List Char} (h : Settled t) {xs : List Char} (hxs : ∀ c ∈ xs, cutsPath c = false) :
    Settled (xs ++ t) where
  plain c hc := (List.mem_append.mp hc).elim (hxs c) (h.plain c)
  last := by
    obtain ⟨c, hc, hlast⟩ := h.last
    exact ⟨c, by simp [List.getLast?_append, Option.mem_def.mp hc], hlast⟩

theorem cleaned_slash (b : List Char) : ∃ front : List Char, front ⊆ b ∧
    ∀ r, Settled r → cleaned (b ++ '/' :: r) = front ++ '/' :: r := by
  let blank (c : Char) : Bool := c.toNat ≤ 0x20
  let keeps (c : Char) : Bool := c != '\t' && c != '\n' && c != '\r'
  have hslash : blank '/' = false := rfl
  refine ⟨(b.dropWhile blank).filter keeps, fun c hc => ?_, fun r hr => ?_⟩
  · exact (List.dropWhile_sublist blank).subset (List.mem_filter.mp hc).1
  · obtain ⟨c, hc, hlast⟩ := hr.last
    obtain ⟨start, rfl⟩ := List.getLast?_eq_some_iff.mp hc
    have hblank : ¬blank c = true := by simpa [blank] using hlast
    have hkept : ('/' :: (start ++ [c])).filter keeps = '/' :: (start ++ [c]) := by
      refine List.filter_eq_self.mpr (List.forall_mem_cons.mpr ⟨rfl, fun d hd => ?_⟩)
      have hne {e : Char} (he : cutsPath e = true) : (d != e) = true :=
        bne_iff_ne.mpr fun hde => hr.notMem he (hde ▸ hd)
      simp [keeps, hne (e := '\t') rfl, hne (e := '\n') rfl, hne (e := '\r') rfl]
    have hreverse (front : List Char) : (front ++ '/' :: (start ++ [c])).reverse =
        c :: (front ++ '/' :: start).reverse := by simp
    show ((((b ++ '/' :: (start ++ [c])).dropWhile blank).reverse.dropWhile blank).reverse).filter keeps = _
    rw [dropWhile_append_cons hslash, hreverse, List.dropWhile_cons_of_neg hblank, ← hreverse, List.reverse_reverse,
      List.filter_append, hkept]

theorem ofAuthority?_scheme {k : Kind} {scheme : String} {cs : List Char} {u : Url}
    (h : ofAuthority? k scheme cs = some u) : u.scheme = scheme := by
  rw [ofAuthority?_eq] at h
  obtain ⟨user, -, h⟩ := Option.bind_eq_some_iff.mp h
  obtain ⟨host, -, h⟩ := Option.bind_eq_some_iff.mp h
  split at h
  · cases h
  · obtain ⟨s, -, rfl⟩ := Option.map_eq_some_iff.mp h
    rfl

theorem ofFile?_scheme {cs : List Char} {u : Url} (h : ofFile? cs = some u) : u.scheme = "file" := by
  unfold ofFile? at h
  split at h
  · split at h
    · dsimp only at h
      split at h
      · cases h
        rfl
      · obtain ⟨host, -, rfl⟩ := Option.map_eq_some_iff.mp h
        split
        · rfl
        · unfold remoteFile
          dsimp only
          split <;> rfl
    · cases h
      rfl
  · cases h
    rfl

theorem ofText?_scheme {s : String} {name rest : List Char} {u : Url}
    (hscheme : schemeOf? (cleaned s.toList) = some (name, rest)) (h : ofText? s = some u) :
    u.scheme = String.ofList name := by
  unfold ofText? at h
  rw [hscheme] at h
  simp only [Option.bind_eq_bind, Option.bind_some] at h
  split at h
  · exact ofAuthority?_scheme h
  · rename_i hkind
    rw [ofFile?_scheme h]
    unfold kindOf at hkind
    split at hkind
    · rename_i hfile
      exact hfile.symm
    · split at hkind <;> cases hkind
  · split at h
    · exact ofAuthority?_scheme h
    · cases h
      rfl

/-- The address of a page, to which requests can be sent. --/
def page? (s : String) : Option Url := (ofText? s).filter fun u => u.scheme = "http" || u.scheme = "https"

theorem page?_eq (s : String) :
    page? s = (schemeOf? (cleaned s.toList)).bind fun s =>
      if String.ofList s.1 = "http" ∨ String.ofList s.1 = "https" then
        ofAuthority? .web (String.ofList s.1) (s.2.dropWhile (isSlash .web))
      else none := by
  unfold page?
  cases hscheme : schemeOf? (cleaned s.toList) with
  | none =>
    have hnone : ofText? s = none := by simp [ofText?, hscheme]
    rw [hnone]
    rfl
  | some cut =>
    obtain ⟨name, rest⟩ := cut
    rw [Option.bind_some]
    dsimp only
    split
    · rename_i hpage
      have hkind : kindOf (String.ofList name) = .web := by
        rcases hpage with h | h <;> rw [h] <;> rfl
      have htext : ofText? s = ofAuthority? .web (String.ofList name) (rest.dropWhile (isSlash .web)) := by
        simp [ofText?, hscheme, hkind]
      rw [← htext]
      cases h : ofText? s with
      | none => rfl
      | some u => simp [ofText?_scheme hscheme h, hpage]
    · rename_i hpage
      cases h : ofText? s with
      | none => rfl
      | some u =>
        obtain ⟨hhttp, hhttps⟩ := not_or.mp hpage
        simp [ofText?_scheme hscheme h, hhttp, hhttps]

/-- What is read behind a scheme, unless it is refused: all but the path does not depend on what follows the slash, and
    neither do the parts of the path before it. --/
theorem ofAuthority?_behind (scheme : String) {b : List Char} (hquery : '?' ∉ b) (hfragment : '#' ∉ b) :
    (∀ t, ofAuthority? .web scheme (b ++ '/' :: t) = none) ∨
      ∃ (frame : Url) (done : List (List Char)), ∀ t, Settled t →
        ofAuthority? .web scheme (b ++ '/' :: t) =
          some { frame with path := String.ofList (pathBehind done t) } := by
  rcases ofAuthority?_slash scheme b with hnone | ⟨host, user, password, endpoint, rest, hsuffix, hends, hsome⟩
  · exact .inl hnone
  · have hquery : '?' ∉ rest := fun h => hquery (hsuffix.subset h)
    have hfragment : '#' ∉ rest := fun h => hfragment (hsuffix.subset h)
    have hslash : ∀ c ∈ rest.head?, isSlash .web c := by
      intro c hc
      have hmem := List.mem_of_mem_head? hc
      have hq : c ≠ '?' := fun h => hquery (h ▸ hmem)
      have hf : c ≠ '#' := fun h => hfragment (h ▸ hmem)
      simpa [endsAuthority, hq, hf] using hends c hc
    obtain ⟨done, hdone⟩ := pathAtHost_slash hslash
    refine .inr ⟨placed .web scheme host user password (endpoint, []), done, fun t ht => ?_⟩
    have hquery : '?' ∉ rest ++ '/' :: t := by simp [hquery, ht.notMem (c := '?') rfl]
    have hfragment : '#' ∉ rest ++ '/' :: t := by simp [hfragment, ht.notMem (c := '#') rfl]
    rw [hsome, ← hdone, placed, ofTail_of_notMem _ _ _ _ hquery hfragment]
    rfl

/-- The same for an address from its scheme on, with `/jobs/` in it. --/
theorem page?_behind {b : List Char} (hquery : '?' ∉ b) (hfragment : '#' ∉ b) :
    (∀ t, Settled t → page? (String.ofList (b ++ "/jobs/".toList ++ t)) = none) ∨
      ∃ (frame : Url) (done : List (List Char)), ∀ t, Settled t →
        page? (String.ofList (b ++ "/jobs/".toList ++ t)) =
          some { frame with path := String.ofList (pathBehind done t) } := by
  obtain ⟨front, hfront, hcleaned⟩ := cleaned_slash b
  have hread (t) (ht : Settled t) : page? (String.ofList (b ++ "/jobs/".toList ++ t)) =
      (schemeOf? front).bind fun s =>
        if String.ofList s.1 = "http" ∨ String.ofList s.1 = "https" then
          ofAuthority? .web (String.ofList s.1)
            ((s.2 ++ ['/']).dropWhile (isSlash .web) ++ "jobs".toList ++ '/' :: t)
        else none := by
    have htext : b ++ "/jobs/".toList ++ t = b ++ '/' :: ("jobs/".toList ++ t) := by simp
    have hjobs : Settled ("jobs/".toList ++ t) := ht.behind (plain_of_all (by decide))
    rw [page?_eq, String.toList_ofList, htext, hcleaned _ hjobs, schemeOf?_slash, Option.bind_map]
    congr
    funext s
    have hdrop := dropWhile_append_cons (p := isSlash .web) (y := 'j') rfl (s.2 ++ ['/']) ('o' :: 'b' :: 's' :: '/' :: t)
    simp only [List.append_assoc, List.singleton_append] at hdrop
    simp [hdrop]
  cases hscheme : schemeOf? front with
  | none =>
    refine .inl fun t ht => ?_
    rw [hread t ht, hscheme]
    rfl
  | some cut =>
    simp only [hscheme, Option.bind_some] at hread
    by_cases hname : String.ofList cut.1 = "http" ∨ String.ofList cut.1 = "https"
    · simp only [if_pos hname] at hread
      have hplain {c : Char} (hc : c ∉ b) (hjobs : c ∉ "/jobs".toList) :
          c ∉ (cut.2 ++ ['/']).dropWhile (isSlash .web) ++ "jobs".toList := by
        intro hmem
        rcases List.mem_append.mp hmem with hmem | hmem
        · rcases List.mem_append.mp ((List.dropWhile_sublist _).subset hmem) with hmem | hmem
          · exact hc (hfront ((schemeOf?_suffix hscheme).subset hmem))
          · exact hjobs (List.mem_cons.mpr (.inl (List.mem_singleton.mp hmem)))
        · exact hjobs (List.mem_cons_of_mem _ hmem)
      rcases ofAuthority?_behind (String.ofList cut.1) (hplain hquery (by decide)) (hplain hfragment (by decide)) with
        hnone | ⟨frame, done, hsome⟩
      · exact .inl fun t ht => (hread t ht).trans (hnone t)
      · exact .inr ⟨frame, done, fun t ht => (hread t ht).trans (hsome t ht)⟩
    · exact .inl fun t ht => (hread t ht).trans (if_neg hname)

end Url
end Cutroom
