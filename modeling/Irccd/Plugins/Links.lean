import Mathlib.Data.List.TakeWhile
import Irccd.Foundations.Replacing
import Irccd.Plugins.Basic
import Irccd.Plugins.Links.Entities

/-!
# The plugin links (`links.js`)

The title of a page is the text between the first tags `title`, whose entities are decoded one after
the other.

* `entities`: the table of the entities;
* `exec`, `parse`: the title of a page;
* `htmlEscape`, `Page`: a page with a title that is escaped;
* `title_eq_iff`: exactly when the title of the page is the text that was escaped.
-/

namespace Irccd

namespace Links

/-- A string of JavaScript: its code units. -/
abbrev JsText : Type := List ℕ

/-- A literal string of ASCII characters. -/
def units (s : String) : JsText := s.toByteArray.data.toList.map UInt8.toNat

/-- `entities` -/
def entities : List (JsText × JsText) := namedEntities.map fun entry => (units entry.1, entry.2)

/-! ## The title of a page -/

/-- A letter in lower case, as a regular expression that ignores the case takes it. -/
def foldUnit (c : ℕ) : ℕ := if 65 ≤ c ∧ c ≤ 90 then c + 32 else c

/-- What follows a word at the beginning of a text. The word is in lower case. -/
def matchWord (word s : JsText) : Option JsText :=
  if (s.take word.length).map foldUnit = word then some (s.drop word.length) else none

/-- The group of the regular expression `/<title>([^<]+)<\/title>/i`, where it matches at the
beginning. The group ends where a `<` follows, and nowhere before. -/
def matchTitle (s : JsText) : Option JsText :=
  (matchWord (units "<title>") s).bind fun s =>
    (matchWord (units "</title>") (s.dropWhile (· ≠ 60))).bind fun _ =>
      if s.takeWhile (· ≠ 60) = [] then none else some (s.takeWhile (· ≠ 60))

/-- The group of the first match, `regex.exec(body)[1]`. -/
def exec : JsText → Option JsText
  | [] => none
  | c :: s => (matchTitle (c :: s)).or (exec s)

/-- The object `kw`. -/
structure Keywords where
  channel : CStr
  nickname : CStr
  origin : CStr
  server : CStr
  title : JsText

/-- `parse`: the object given to `Util.format`, for the message to the channel. -/
def parse (server origin channel : CStr) (status : ℤ) (body : JsText) : Option Keywords :=
  if status ≠ 0 ∨ body = [] then none
  else (exec body).map fun title =>
    { channel
      nickname := splituser origin
      origin
      server
      title := Replacing.decode entities title }

/-! ## Pages -/

/-- A text as HTML: the special characters are written as entities. -/
def htmlEscape (t : JsText) : JsText :=
  t.flatMap fun c =>
    if c = 38 then units "&amp;"
    else if c = 60 then units "&lt;"
    else if c = 62 then units "&gt;"
    else if c = 34 then units "&quot;"
    else [c]

/-- A page with one title element, without its text. The name of the element is in any case; a tag
may have attributes, or spaces at its end. -/
structure Page where
  before : JsText
  openName : JsText
  attributes : JsText
  closeName : JsText
  spaces : JsText
  after : JsText
  openName_eq : openName.map foldUnit = units "<title"
  closeName_eq : closeName.map foldUnit = units "</title"
  attributes_free : 60 ∉ attributes ∧ attributes.head? ≠ some 62
  spaces_free : 60 ∉ spaces ∧ spaces.head? ≠ some 62
  before_free : ¬ units "<title>" <:+: before.map foldUnit
  after_free : ¬ units "<title>" <:+: after.map foldUnit

/-- The page with the text of its title. -/
def Page.text (page : Page) (content : JsText) : JsText :=
  page.before ++ (page.openName ++ (page.attributes ++ 62 :: (content ++
    (page.closeName ++ (page.spaces ++ 62 :: page.after)))))

/-! ## The decoding of titles -/

section Decoding

/-- The characters that are escaped. -/
def special : List ℕ := [38, 60, 62, 34]

/-- The entity of a special character. -/
def entityOf (c : ℕ) : JsText :=
  if c = 38 then units "&amp;"
  else if c = 60 then units "&lt;"
  else if c = 62 then units "&gt;"
  else units "&quot;"

/-- The entities that come after that of the ampersand. -/
def laterEntities : List (JsText × JsText) :=
  (entities.dropWhile (·.1 ≠ units "&amp;")).tail

theorem htmlEscape_eq_render (t : JsText) :
    htmlEscape t = Replacing.render entityOf (t.map (Replacing.escaped special)) := by
  rw [htmlEscape, Replacing.render, List.flatMap_map]
  refine List.flatMap_congr fun c _ => ?_
  rw [Replacing.escaped]
  by_cases h38 : c = 38
  · subst h38
    rfl
  by_cases h60 : c = 60
  · subst h60
    rfl
  by_cases h62 : c = 62
  · subst h62
    rfl
  by_cases h34 : c = 34
  · subst h34
    rfl
  have hc : c ∉ special := by simp [special, h38, h60, h62, h34]
  rw [if_neg hc, if_neg h38, if_neg h60, if_neg h62, if_neg h34]
  rfl

theorem marked_entityOf : Replacing.Marked entityOf 38 := by
  intro c
  rw [entityOf]
  split
  · exact ⟨units "amp;", by decide, by decide⟩
  · split
    · exact ⟨units "lt;", by decide, by decide⟩
    · split
      · exact ⟨units "gt;", by decide, by decide⟩
      · exact ⟨units "quot;", by decide, by decide⟩

/-- A part of `entities`. -/
def spelled (named : List (String × List ℕ)) : List (JsText × JsText) :=
  named.map fun entry => (units entry.1, entry.2)

theorem entities_eq_spelled : entities =
    spelled (entitiesA ++ entitiesB ++ entitiesC ++ entitiesD) ++
      (spelled (entitiesE ++ entitiesF ++ entitiesG ++ entitiesH ++ entitiesI ++ entitiesJ ++
          entitiesK) ++
        (spelled (entitiesL ++ entitiesM ++ entitiesN) ++
          (spelled (entitiesO ++ entitiesP ++ entitiesQ ++ entitiesR) ++
            spelled (entitiesS ++ entitiesT ++ entitiesU ++ entitiesV ++ entitiesW ++ entitiesX ++
              entitiesY ++ entitiesZ)))) := by
  unfold entities namedEntities spelled
  simp only [List.map_append, List.append_assoc]

/-- Every entity is longer than its value, none but those of the special characters can be taken for
these, and the latter are in the table. -/
theorem resolves_entities : Replacing.resolves entityOf special 38 special entities = true := by
  -- the table is evaluated in parts, each up to the letter of a special character
  have hamp : Replacing.leftBehind entityOf special 38 special
      (spelled (entitiesA ++ entitiesB ++ entitiesC ++ entitiesD)) = some [60, 62, 34] := by
    decide +kernel
  have hgt : Replacing.leftBehind entityOf special 38 [60, 62, 34]
      (spelled (entitiesE ++ entitiesF ++ entitiesG ++ entitiesH ++ entitiesI ++ entitiesJ ++
        entitiesK)) = some [60, 34] := by
    decide +kernel
  have hlt : Replacing.leftBehind entityOf special 38 [60, 34]
      (spelled (entitiesL ++ entitiesM ++ entitiesN)) = some [34] := by
    decide +kernel
  have hquot : Replacing.leftBehind entityOf special 38 [34]
      (spelled (entitiesO ++ entitiesP ++ entitiesQ ++ entitiesR)) = some [] := by
    decide +kernel
  rw [entities_eq_spelled, Replacing.resolves_append hamp, Replacing.resolves_append hgt,
    Replacing.resolves_append hlt, Replacing.resolves_append hquot]
  decide +kernel

/-- The first entity that is found in an escaped text is that of the ampersand. -/
theorem entities_eq : entities = entities.takeWhile (·.1 ≠ units "&amp;") ++
    (entityOf 38, [38]) :: laterEntities := by
  have hamp : (entities.dropWhile (·.1 ≠ units "&amp;")).head? = some (entityOf 38, [38]) := by
    decide +kernel
  have hcons := List.cons_head?_tail (Option.mem_def.2 hamp)
  rw [laterEntities, hcons, List.takeWhile_append_dropWhile]

/-- An escaped text is decoded if and only if it has no entity that comes after that of the
ampersand. -/
theorem decode_htmlEscape_iff (t : JsText) :
    Replacing.decode entities (htmlEscape t) = t ↔ ∀ entity ∈ laterEntities, ¬ entity.1 <:+: t := by
  have hresolves := resolves_entities
  rw [entities_eq] at hresolves
  rw [htmlEscape_eq_render, entities_eq]
  refine Replacing.decode_render_iff marked_entityOf (by decide) (List.Subset.refl _) (by decide)
    hresolves (fun entity hentity => ?_) t
  have hfirst := List.mem_takeWhile_imp hentity
  exact of_decide_eq_true hfirst

end Decoding

/-! ## The title that is found -/

section Matching

variable {word s t x : JsText} {c : ℕ}

theorem matchWord_eq_some (h : s.map foldUnit = word) (t : JsText) :
    matchWord word (s ++ t) = some t := by
  have hlen : word.length = s.length := by rw [← h, List.length_map]
  rw [matchWord, hlen, List.take_left, List.drop_left, if_pos h]

theorem prefix_of_matchWord (h : matchWord word s ≠ none) : word <+: s.map foldUnit := by
  rw [matchWord] at h
  split at h
  · next heq =>
    rw [← heq]
    exact (List.take_prefix _ _).map _
  · exact absurd rfl h

theorem matchTitle_eq_none (h : ¬ units "<title>" <+: s.map foldUnit) : matchTitle s = none := by
  rw [matchTitle]
  cases hword : matchWord (units "<title>") s with
  | none => rfl
  | some t => exact absurd (prefix_of_matchWord (by simp [hword])) h

/-- The tag begins with a `<`, and has no other. -/
theorem tag_eq : units "<title>" = 60 :: units "title>" ∧ 60 ∉ units "title>" := by decide

/-- A character that is not a `<` begins no tag. -/
theorem exec_cons_of_ne (hc : c ≠ 60) : exec (c :: s) = exec s := by
  have hnone : matchTitle (c :: s) = none := by
    refine matchTitle_eq_none fun h => ?_
    rw [tag_eq.1, List.map_cons] at h
    have hfold := (List.cons_prefix_cons.1 h).1
    rw [foldUnit] at hfold
    split at hfold <;> omega
  rw [exec, hnone, Option.none_or]

theorem exec_append_of_notMem (hx : 60 ∉ x) (s : JsText) : exec (x ++ s) = exec s := by
  induction x with
  | nil => rfl
  | cons c x ih =>
    rw [List.mem_cons, not_or] at hx
    rw [List.cons_append, exec_cons_of_ne (Ne.symm hx.1), ih hx.2]

theorem foldUnit_eq_lt : foldUnit c = 60 ↔ c = 60 := by
  rw [foldUnit]
  split <;> omega

/-- A text without tags before a `<` is passed over. -/
theorem exec_append_of_not_occurs (hx : ¬ units "<title>" <:+: x.map foldUnit) (s : JsText) :
    exec (x ++ 60 :: s) = exec (60 :: s) := by
  induction x with
  | nil => rfl
  | cons c x ih =>
    have hnone : matchTitle (c :: x ++ 60 :: s) = none := by
      refine matchTitle_eq_none fun h => hx (List.IsPrefix.isInfix ?_)
      rw [List.map_append] at h
      rcases List.prefix_or_prefix_of_prefix h (List.prefix_append _ _) with htag | hlong
      · exact htag
      · -- the tag would contain the `<` that follows
        obtain ⟨rest, hrest⟩ := hlong
        rw [← hrest, List.prefix_append_right_inj, List.map_cons] at h
        rcases rest with _ | ⟨d, rest⟩
        · exact ⟨[], by rw [List.append_nil, ← hrest, List.append_nil]⟩
        · have hd : d = 60 := (List.cons_prefix_cons.1 h).1
          rw [hd, tag_eq.1, List.map_cons, List.cons_append] at hrest
          obtain ⟨-, htail⟩ := List.cons.inj hrest
          exact absurd (htail ▸ List.mem_append_right _ List.mem_cons_self) tag_eq.2
    have hrest : ¬ units "<title>" <:+: x.map foldUnit := fun h =>
      hx (h.trans (List.suffix_cons _ _).isInfix)
    rw [List.cons_append, exec, ← List.cons_append, hnone, Option.none_or, ih hrest]

theorem exec_eq_none (hs : ¬ units "<title>" <:+: s.map foldUnit) : exec s = none := by
  induction s with
  | nil => rfl
  | cons c s ih =>
    rw [exec, matchTitle_eq_none fun h => hs h.isInfix, Option.none_or]
    exact ih fun h => hs (h.trans (List.suffix_cons _ _).isInfix)

end Matching

namespace Page

variable (page : Page) {t content : JsText}

/-- The names of tags begin with a `<`, and have no other. -/
theorem exists_name (word : String) {name : JsText} (hname : name.map foldUnit = 60 :: units word)
    (hword : 60 ∉ units word) : ∃ letters, name = 60 :: letters ∧ 60 ∉ letters := by
  cases name with
  | nil => cases hname
  | cons c letters =>
    obtain ⟨hc, hletters⟩ := List.cons.inj hname
    refine ⟨letters, by rw [foldUnit_eq_lt.1 hc], fun hmem => hword ?_⟩
    rw [← hletters]
    exact List.mem_map.2 ⟨60, hmem, rfl⟩

/-- Nothing matches after the tag that begins the element. -/
theorem exec_after (hcontent : 60 ∉ content) :
    exec (content ++ (page.closeName ++ (page.spaces ++ 62 :: page.after))) = none := by
  obtain ⟨letters, hclose, hletters⟩ :=
    exists_name "/title" page.closeName_eq (by decide)
  have hfirst : matchTitle (60 :: (letters ++ (page.spaces ++ 62 :: page.after))) = none := by
    refine matchTitle_eq_none fun h => ?_
    have hslash : ∃ d rest, letters = d :: rest ∧ foldUnit d = 47 := by
      have heq := page.closeName_eq
      rw [hclose] at heq
      cases letters with
      | nil => cases heq
      | cons d rest => exact ⟨d, rest, rfl, (List.cons.inj (List.cons.inj heq).2).1⟩
    obtain ⟨d, rest, rfl, hd⟩ := hslash
    have h2 := (List.cons_prefix_cons.1 (List.cons_prefix_cons.1 h).2).1
    rw [hd] at h2
    exact absurd h2 (by decide)
  rw [exec_append_of_notMem hcontent, hclose, List.cons_append, exec, hfirst, Option.none_or,
    exec_append_of_notMem hletters, exec_append_of_notMem page.spaces_free.1,
    exec_cons_of_ne (by decide)]
  exact exec_eq_none page.after_free

/-- A tag matches if nothing follows its name. -/
theorem matchWord_tag {name word extra : JsText} (hname : name.map foldUnit = word)
    (hextra : extra.head? ≠ some 62) (t : JsText) :
    matchWord (word ++ [62]) (name ++ (extra ++ 62 :: t)) =
      if extra = [] then some t else none := by
  cases extra with
  | nil =>
    have hmatch : matchWord (word ++ [62]) ((name ++ [62]) ++ t) = some t :=
      matchWord_eq_some (by rw [List.map_append, hname]; rfl) t
    rwa [List.append_assoc] at hmatch
  | cons c extra =>
    rw [if_neg (List.cons_ne_nil _ _)]
    by_contra hne
    have h := prefix_of_matchWord hne
    rw [List.map_append, hname, List.prefix_append_right_inj] at h
    have hc : 62 = foldUnit c := (List.cons_prefix_cons.1 h).1
    have heq : c = 62 := by
      rw [foldUnit] at hc
      split at hc <;> omega
    exact hextra (by rw [heq]; rfl)

/-- The first match is at the element, if it is one. -/
theorem exec_text (hcontent : 60 ∉ content) :
    exec (page.text content) =
      if page.attributes = [] ∧ page.spaces = [] ∧ content ≠ [] then some content else none := by
  obtain ⟨letters, hopen, hletters⟩ := exists_name "title" page.openName_eq (by decide)
  obtain ⟨letters', hclose, -⟩ := exists_name "/title" page.closeName_eq (by decide)
  have hwhole : exec (page.text content) = matchTitle (page.openName ++ (page.attributes ++
      62 :: (content ++ (page.closeName ++ (page.spaces ++ 62 :: page.after))))) := by
    rw [text, hopen, List.cons_append, exec_append_of_not_occurs page.before_free, exec,
      exec_append_of_notMem hletters, exec_append_of_notMem page.attributes_free.1,
      exec_cons_of_ne (by decide), page.exec_after hcontent, Option.or_none]
  -- the tags end right behind the name, and there is no tag in the text
  have htag : units "<title>" = units "<title" ++ [62] := by decide
  have htag' : units "</title>" = units "</title" ++ [62] := by decide
  have hall : ∀ c ∈ content, decide (c ≠ 60) = true :=
    fun c hc => decide_eq_true fun heq : c = 60 => hcontent (heq ▸ hc)
  rw [hwhole, matchTitle, htag, matchWord_tag page.openName_eq page.attributes_free.2]
  by_cases hattributes : page.attributes = []
  · rw [if_pos hattributes, Option.bind_some]
    have htake : (content ++ (page.closeName ++ (page.spaces ++ 62 :: page.after))).takeWhile
        (· ≠ 60) = content := by
      rw [hclose, List.takeWhile_append_of_pos hall, List.cons_append,
        List.takeWhile_cons_of_neg (by decide), List.append_nil]
    have hdrop : (content ++ (page.closeName ++ (page.spaces ++ 62 :: page.after))).dropWhile
        (· ≠ 60) = page.closeName ++ (page.spaces ++ 62 :: page.after) := by
      rw [hclose, List.dropWhile_append_of_pos hall, List.cons_append,
        List.dropWhile_cons_of_neg (by decide)]
    rw [htake, hdrop, htag', matchWord_tag page.closeName_eq page.spaces_free.2]
    by_cases hspaces : page.spaces = []
    · by_cases hnil : content = []
      · simp [hspaces, hnil]
      · simp [hattributes, hspaces, hnil]
    · simp [hspaces]
  · simp [hattributes]

end Page

theorem notMem_htmlEscape (t : JsText) : 60 ∉ htmlEscape t := by
  intro hmem
  obtain ⟨c, -, hc⟩ := List.mem_flatMap.1 hmem
  split at hc
  · exact absurd hc (by decide)
  · split at hc
    · exact absurd hc (by decide)
    · next h60 =>
      split at hc
      · exact absurd hc (by decide)
      · split at hc
        · exact absurd hc (by decide)
        · exact h60 (List.mem_singleton.1 hc).symm

theorem htmlEscape_eq_nil {t : JsText} : htmlEscape t = [] ↔ t = [] := by
  refine ⟨fun h => ?_, fun h => by rw [h]; rfl⟩
  rw [htmlEscape_eq_render] at h
  cases t with
  | nil => rfl
  | cons c t =>
    rw [List.map_cons, Replacing.render_cons, List.append_eq_nil_iff, Replacing.escaped] at h
    split at h
    · obtain ⟨name, hname, -⟩ := marked_entityOf c
      rw [Replacing.renderToken, hname] at h
      cases h.1
    · cases h.1

/-- The title of a page is the text that was escaped, if and only if the regular expression takes
its tags, the text is not empty, and it has no entity that comes in the table after that of the
ampersand. -/
theorem title_eq_iff (page : Page) (t : JsText) (server origin channel : CStr) :
    (parse server origin channel 0 (page.text (htmlEscape t))).map (·.title) = some t ↔
      page.attributes = [] ∧ page.spaces = [] ∧ t ≠ [] ∧
        ∀ entity ∈ laterEntities, ¬ entity.1 <:+: t := by
  have hbody : page.text (htmlEscape t) ≠ [] := by
    intro hnil
    have hopen := page.openName_eq
    rw [Page.text] at hnil
    rw [(List.append_eq_nil_iff.1 (List.append_eq_nil_iff.1 hnil).2).1] at hopen
    exact absurd hopen (by decide)
  have hnil : htmlEscape t ≠ [] ↔ t ≠ [] := not_congr htmlEscape_eq_nil
  rw [parse, if_neg (by simp [hbody]), page.exec_text (notMem_htmlEscape t),
    ← decode_htmlEscape_iff]
  by_cases htags : page.attributes = [] ∧ page.spaces = [] ∧ htmlEscape t ≠ []
  · rw [if_pos htags]
    simp [htags.1, htags.2.1, hnil.1 htags.2.2]
  · rw [if_neg htags]
    constructor
    · intro h
      cases h
    · rintro ⟨hattributes, hspaces, ht, -⟩
      exact absurd ⟨hattributes, hspaces, hnil.2 ht⟩ htags

/-- A page that is a title element. -/
def plainPage : Page where
  before := []
  openName := units "<title"
  attributes := []
  closeName := units "</title"
  spaces := []
  after := []
  openName_eq := by decide
  closeName_eq := by decide
  attributes_free := by decide
  spaces_free := by decide
  before_free := by decide
  after_free := by decide

/-- The text `&amp;` is escaped, and decoded twice. -/
theorem not_forall_title_eq :
    ¬ ∀ (page : Page) (t : JsText) (server origin channel : CStr),
      (parse server origin channel 0 (page.text (htmlEscape t))).map (·.title) = some t := by
  intro h
  have hlater := ((title_eq_iff plainPage (units "&amp;") [] [] []).1 (h _ _ _ _ _)).2.2.2
  have hmem : laterEntities.head? = some (units "&amp", [38]) := by decide +kernel
  exact absurd (List.IsPrefix.isInfix (by decide)) (hlater _ (List.mem_of_mem_head? hmem))

end Links

end Irccd
