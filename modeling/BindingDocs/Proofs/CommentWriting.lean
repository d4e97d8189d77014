import BindingDocs.Documentation.Parse
import BindingDocs.Proofs.MarkupWriting

/-! Written documentation comments: entries with marked-up contents, how they are written, what they
show, and that reading gives back what was written. -/
namespace BindingDocs.Documentation
open BindingDocs.Markup BindingDocs.Text

/-- One name of a path. -/
structure Identifier extends TextWithout ['\t', '\n', '\r', '.', ':', '('] where
  nonempty : chars ≠ []

/-- The target of a reference: a letter for its kind, a path that ends with its name, and its
parameters. -/
structure Target where
  kind : Option {c : Char // c.isAlpha = true}
  path : List Identifier
  last : Identifier
  params : Option Value

namespace Target

def kindChars (t : Target) : List Char := t.kind.elim [] fun k => [k.1, ':']

def pathChars (t : Target) : List Char := t.path.flatMap (fun i => i.chars ++ ['.']) ++ t.last.chars

def paramChars (t : Target) : List Char := t.params.elim [] fun p => '(' :: p.chars ++ [')']

def chars (t : Target) : List Char := t.kindChars ++ (t.pathChars ++ t.paramChars)

end Target

lemma toNat_lt_of_isAlpha {c : Char} (h : c.isAlpha = true) : c.toNat < 0x80 := by
  have hletter : c.isAlphanum = true := Bool.or_eq_true_iff.2 (.inl h)
  have hcode := toNat_of_isAlphanum hletter
  omega

/-- A letter may stand in a value, and it is no mark of a path. -/
lemma letter_of_isAlpha {c : Char} (h : c.isAlpha = true) :
    isAllowed c = true ∧ c ∉ ['\t', '\n', '\r', '.', ':', '('] := by
  have hall : ∀ n < 0x80, (Char.ofNat n).isAlpha = true →
      isAllowed (Char.ofNat n) = true ∧ Char.ofNat n ∉ ['\t', '\n', '\r', '.', ':', '('] := by decide
  have hc := hall _ (toNat_lt_of_isAlpha h)
  rw [Char.ofNat_toNat] at hc
  exact hc h

namespace Target
variable (t : Target)

/-- What may stand in a path: the characters of identifiers, and dots. -/
lemma mem_pathChars {c : Char} (h : c ∈ t.pathChars) :
    isAllowed c = true ∧ c ∉ ['\t', '\n', '\r', ':', '('] := by
  have hidentifier : ∀ i : Identifier, c ∈ i.chars →
      isAllowed c = true ∧ c ∉ ['\t', '\n', '\r', ':', '('] := by
    intro i hc
    have hkept := i.kept c hc
    simp only [List.mem_cons, List.not_mem_nil, or_false, not_or] at hkept
    exact ⟨i.allowed c hc, by simp [hkept]⟩
  rw [pathChars, List.mem_append, List.mem_flatMap] at h
  rcases h with ⟨i, -, hc⟩ | hc
  · rcases List.mem_append.1 hc with hc | hc
    · exact hidentifier i hc
    · rw [List.mem_singleton.1 hc]
      decide
  · exact hidentifier t.last hc

lemma mem_chars {c : Char} (h : c ∈ t.chars) : isAllowed c = true ∧ c ∉ ['\t', '\n', '\r'] := by
  rw [chars, List.mem_append, List.mem_append] at h
  rcases h with h | h | h
  · obtain ⟨k, -, hk⟩ : ∃ k ∈ t.kind, c ∈ [k.1, ':'] := by
      cases hkind : t.kind <;> simp_all [kindChars]
    rcases List.mem_cons.1 hk with rfl | hk
    · have hletter := letter_of_isAlpha k.2
      simp only [List.mem_cons, List.not_mem_nil, or_false, not_or] at hletter
      exact ⟨hletter.1, by simp [hletter]⟩
    · rw [List.mem_singleton.1 hk]
      decide
  · have hpath := t.mem_pathChars h
    simp only [List.mem_cons, List.not_mem_nil, or_false, not_or] at hpath
    exact ⟨hpath.1, by simp [hpath]⟩
  · obtain ⟨p, -, hp⟩ : ∃ p ∈ t.params, c ∈ '(' :: p.chars ++ [')'] := by
      cases hparams : t.params <;> simp_all [paramChars]
    rw [List.cons_append, List.mem_cons, List.mem_append, List.mem_singleton] at hp
    rcases hp with rfl | hp | rfl
    · decide
    · exact ⟨p.allowed c hp, p.kept c hp⟩
    · decide

/-- A target as the value of an attribute. -/
def value : Value := ⟨t.chars, fun _ h => (t.mem_chars h).1, fun _ h => (t.mem_chars h).2⟩

lemma head?_paramChars {c : Char} (h : c ∈ t.paramChars.head?) : c = '(' := by
  cases hparams : t.params with
  | none => simp [paramChars, hparams] at h
  | some p => simpa [paramChars, hparams] using h.symm

lemma afterLast_pathChars : afterLast '.' t.pathChars = t.last.chars := by
  have hlast : '.' ∉ t.last.chars := fun h => t.last.kept _ h (by simp)
  obtain ⟨kind, path, last, params⟩ := t
  induction path with
  | nil => exact afterLast_of_not_mem hlast
  | cons i path ih =>
    have hpath : pathChars ⟨kind, i :: path, last, params⟩ =
        i.chars ++ '.' :: pathChars ⟨kind, path, last, params⟩ := by simp [pathChars]
    rw [hpath, afterLast_append_cons, ih hlast]

lemma takeWhile_pathChars : (t.pathChars ++ t.paramChars).takeWhile (· ≠ '(') = t.pathChars := by
  refine takeWhile_append (fun c hc => ?_) fun c hc => ?_
  · have := (t.mem_pathChars hc).2
    simp only [List.mem_cons, not_or] at this
    simp [this]
  · simp [t.head?_paramChars hc]

/-- Before a colon among the parameters stand the path and a parenthesis. -/
lemma utf8ByteSize_of_cutAt {before rest : List Char}
    (h : cutAt ':' (t.pathChars ++ t.paramChars) = some (before, rest)) :
    (String.ofList before).utf8ByteSize ≠ 1 := by
  have hcolon : ':' ∉ t.pathChars := fun hmem => (t.mem_pathChars hmem).2 (by simp)
  have hparams : t.paramChars ≠ ':' :: rest := fun heq =>
    absurd (t.head?_paramChars (c := ':') (by simp [heq])) (by decide)
  have hpath : t.pathChars ≠ [] := fun hnil => t.last.nonempty (List.append_eq_nil_iff.1 hnil).2
  rcases List.append_eq_append_iff.1 (cutAt_eq_some h).1 with ⟨a, hbefore, hrest⟩ | ⟨a, hpathEq, hrest⟩
  · cases a with
    | nil => exact absurd hrest hparams
    | cons d a =>
      obtain ⟨c, r, hcr⟩ := List.exists_cons_of_ne_nil hpath
      have hc := c.utf8Size_pos
      have hd := d.utf8Size_pos
      simp only at hbefore
      rw [hbefore, hcr]
      simp only [List.cons_append, String.ofList_cons, String.ofList_append, String.utf8ByteSize_append,
        String.utf8ByteSize_singleton]
      omega
  · cases a with
    | nil => exact absurd hrest.symm hparams
    | cons d a =>
      obtain ⟨rfl, -⟩ := List.cons.inj hrest
      exact absurd (by simp [hpathEq]) hcolon

/-- A reference shows the name at the end of its path. -/
lemma targetName_chars : targetName (String.ofList t.chars) = String.ofList t.last.chars := by
  have hpath : ∀ path : List Char, path = t.pathChars ++ t.paramChars →
      String.ofList (afterLast '.' (path.takeWhile (· ≠ '('))) = String.ofList t.last.chars := by
    rintro path rfl
    rw [takeWhile_pathChars, afterLast_pathChars]
  rw [targetName, String.toList_ofList]
  refine hpath _ ?_
  cases hkind : t.kind with
  | none =>
    have hchars : t.chars = t.pathChars ++ t.paramChars := by simp [chars, kindChars, hkind]
    rw [hchars]
    split
    · rename_i before rest hcut
      rw [if_neg (t.utf8ByteSize_of_cutAt hcut)]
    · rfl
  | some k =>
    have hk : k.1 ≠ ':' := fun heq => (letter_of_isAlpha k.2).2 (by simp [heq])
    have hsize : (String.ofList [k.1]).utf8ByteSize = 1 := by
      have hle : k.1.toNat ≤ 127 := Nat.le_of_lt_succ (toNat_lt_of_isAlpha k.2)
      have hascii : k.1.utf8Size = 1 := Char.utf8Size_eq_one_iff.2 (UInt32.le_iff_toNat_le.2 hle)
      simpa using hascii
    have hchars : t.chars = [k.1] ++ ':' :: (t.pathChars ++ t.paramChars) := by
      simp [chars, kindChars, hkind]
    rw [hchars, cutAt_append _ (by simpa using hk.symm)]
    exact if_pos hsize

end Target

/-- A name of a tag, given as a text. -/
def tagName (name : String) (starts : name.toList.head?.any Markup.isNameStart = true := by decide)
    (plain : name.toList.all (fun c => Markup.isNameChar c && c != ':') = true := by decide) :
    TagName where
  chars := name.toList
  starts := starts
  plain := by simpa using plain

lemma ofList_tagName (name : String) (starts : name.toList.head?.any Markup.isNameStart = true)
    (plain : name.toList.all (fun c => Markup.isNameChar c && c != ':') = true) :
    String.ofList (tagName name starts plain).chars = name := String.ofList_toList

/-- The elements that show a name and not their content. -/
def referenceNames : List String := ["see", "seealso", "paramref", "typeparamref"]

/-- The name of an element that shows its content. -/
structure ContentName extends TagName where
  shows : String.ofList chars ∉ referenceNames

/-- A part of the content of an entry. -/
inductive ContentItem where
  | text (run : Run)
  | see (target : Target)
  /-- A parameter, or a parameter of a type. -/
  | parameter (ofType : Bool) (name : Value)
  | element (name : ContentName) (content : List ContentItem)

def parameterTag (ofType : Bool) : TagName :=
  if ofType then tagName "typeparamref" else tagName "paramref"

mutual

/-- The text and the tags that are written for a part of a content. -/
def ContentItem.tokens : ContentItem → List Token
  | .text run => [.chars run]
  | .see target => [.opening (tagName "see") [(tagName "cref", target.value)] true]
  | .parameter ofType name => [.opening (parameterTag ofType) [(tagName "name", name)] true]
  | .element name content =>
    .opening name.toTagName [] false :: (contentTokens content ++ [.closing name.toTagName])

def contentTokens : List ContentItem → List Token
  | [] => []
  | i :: is => i.tokens ++ contentTokens is

end

mutual

/-- What a reader of the documentation sees of a part of a content. -/
def ContentItem.shown : ContentItem → List Char
  | .text run => run.chars
  | .see target => target.last.chars
  | .parameter _ name => name.chars
  | .element _ content => contentShown content

def contentShown : List ContentItem → List Char
  | [] => []
  | i :: is => i.shown ++ contentShown is

end

lemma nodesText_append (ns ns' : List Node) : nodesText (ns ++ ns') = nodesText ns ++ nodesText ns' := by
  induction ns with
  | nil => rfl
  | cons n ns ih => rw [List.cons_append, nodesText, nodesText, ih, List.append_assoc]

lemma nodesText_textNodes (run : List Char) : nodesText (textNodes run) = run := by
  cases run <;> simp [textNodes, nodesText, nodeText]

/-- The nodes made so far and the text that is still open show what has been written. -/
def Shows (ts : List Token) (shown : List Char) : Prop :=
  ∀ pending, ∃ nodes left, Builds ts pending nodes left ∧ nodesText nodes ++ left = pending ++ shown

lemma shows_selfClosing (name : TagName) {as : List (TagName × Value)} (has : PlainAttributes as)
    {shown : List Char}
    (h : nodeText (.element (String.ofList name.chars) (ownAttributes as) []) = shown) :
    Shows [.opening name as true] shown := by
  intro pending
  refine ⟨_, _, Builds.selfClosing name has pending, ?_⟩
  rw [List.append_nil, nodesText_append, nodesText_textNodes, nodesText, h, nodesText, List.append_nil]

lemma shows_see (target : Target) : Shows (ContentItem.see target).tokens target.last.chars := by
  refine shows_selfClosing _ (plainAttributes_singleton (by decide) _) ?_
  have hreference : referenceText (ownAttributes [(tagName "cref", target.value)]) =
      targetName (String.ofList target.chars) := rfl
  rw [ofList_tagName, nodeText, if_pos (by decide), hreference, target.targetName_chars,
    String.toList_ofList]

lemma shows_parameter (ofType : Bool) (name : Value) :
    Shows (ContentItem.parameter ofType name).tokens name.chars := by
  refine shows_selfClosing _ (plainAttributes_singleton (by decide) _) ?_
  have hname : attribute? (ownAttributes [(tagName "name", name)]) "name" =
      some (String.ofList name.chars) := rfl
  have htag : String.ofList (parameterTag ofType).chars ∈ ["paramref", "typeparamref"] := by
    cases ofType <;> decide
  simp only [List.mem_cons, List.not_mem_nil, or_false] at htag
  rcases htag with htag | htag <;>
    rw [htag, nodeText, if_neg (by decide), if_pos (by decide), hname, Option.getD_some,
      String.toList_ofList]

/-- An element shows what its content shows. -/
lemma nodeText_element (name : ContentName) (children : List Node) :
    nodeText (.element (String.ofList name.chars) [] children) = nodesText children := by
  have hname := name.shows
  simp only [referenceNames, List.mem_cons, List.not_mem_nil, or_false, not_or] at hname
  simp [nodeText, hname]

mutual

lemma shows_item : ∀ i : ContentItem, Shows i.tokens i.shown
  | .text run => by
    rw [ContentItem.tokens, ContentItem.shown]
    exact fun pending => ⟨_, _, Builds.chars run pending, rfl⟩
  | .see target => by
    rw [ContentItem.shown]
    exact shows_see target
  | .parameter ofType name => by
    rw [ContentItem.shown]
    exact shows_parameter ofType name
  | .element name content => by
    intro pending
    obtain ⟨nodes, left, hcontent, hshown⟩ := shows_content content []
    rw [ContentItem.tokens, ContentItem.shown]
    refine ⟨_, _, hcontent.element name.toTagName plainAttributes_nil pending, ?_⟩
    rw [List.append_nil, nodesText_append, nodesText_textNodes, nodesText]
    change pending ++ (nodeText (.element _ [] _) ++ nodesText []) = _
    rw [nodeText_element, nodesText_append, nodesText_textNodes, hshown]
    simp [nodesText]

lemma shows_content : ∀ is : List ContentItem, Shows (contentTokens is) (contentShown is)
  | [] => fun pending => ⟨[], pending, Builds.nil pending, by simp [nodesText, contentShown]⟩
  | i :: is => by
    rw [contentTokens, contentShown]
    intro pending
    obtain ⟨nodes, middle, hfirst, hshown⟩ := shows_item i pending
    obtain ⟨nodes', left, hrest, hshown'⟩ := shows_content is middle
    refine ⟨_, _, hfirst.append hrest, ?_⟩
    rw [nodesText_append, List.append_assoc, hshown', ← List.append_assoc, hshown, List.append_assoc]

end

/-- The tags that have a meaning of their own. -/
def knownTags : List String := ["summary", "returns", "remarks", "value", "param"]

/-- The name of any other tag. -/
structure OtherName extends TagName where
  unknown : String.ofList chars ∉ knownTags

inductive EntryTag where
  | summary
  | returns
  | remarks
  | value
  | param (name : Value)
  | other (name : OtherName)

namespace EntryTag

def tagName : EntryTag → TagName
  | summary => Documentation.tagName "summary"
  | returns => Documentation.tagName "returns"
  | remarks => Documentation.tagName "remarks"
  | value => Documentation.tagName "value"
  | param _ => Documentation.tagName "param"
  | other name => name.toTagName

def attributes : EntryTag → List (TagName × Value)
  | param name => [(Documentation.tagName "name", name)]
  | _ => []

/-- The tag that is read. -/
def tag : EntryTag → Tag
  | summary => .summary
  | returns => .returns
  | remarks => .remarks
  | value => .value
  | param name => .param (String.ofList name.chars)
  | other name => .other (String.ofList name.chars)

lemma plainAttributes_attributes (t : EntryTag) : PlainAttributes t.attributes := by
  cases t with
  | param name => exact plainAttributes_singleton (by decide) name
  | _ => exact plainAttributes_nil

lemma tagOf_tagName (t : EntryTag) :
    tagOf (String.ofList t.tagName.chars) (ownAttributes t.attributes) = t.tag := by
  cases t with
  | other name =>
    have hname := name.unknown
    simp only [knownTags, List.mem_cons, List.not_mem_nil, or_false, not_or] at hname
    obtain ⟨hsummary, hreturns, hremarks, hvalue, hparam⟩ := hname
    rw [tagName, tagOf]
    · rfl
    · exact hsummary
    · exact hreturns
    · exact hremarks
    · exact hvalue
    · exact hparam
  | param name =>
    rw [tagName, ofList_tagName]
    rfl
  | _ =>
    rw [tagName, ofList_tagName]
    rfl

end EntryTag

/-- An entry of a comment, with the blank text behind it. -/
structure WrittenEntry where
  tag : EntryTag
  content : List ContentItem
  gap : Gap

namespace WrittenEntry

def tokens (e : WrittenEntry) : List Token :=
  .opening e.tag.tagName e.tag.attributes false :: (contentTokens e.content ++ [.closing e.tag.tagName])

def write (e : WrittenEntry) : List Char := e.tokens.flatMap Token.write ++ e.gap.chars

def isBlank (e : WrittenEntry) : Bool := (contentShown e.content).all Text.isBlank

/-- The entry that is read. -/
def entry (e : WrittenEntry) : Entry := ⟨e.tag.tag, trimmed (String.ofList (contentShown e.content))⟩

variable (e : WrittenEntry)

lemma endsText_write (rest : List Char) : EndsText (e.write ++ rest) := by
  simp [EndsText, write, tokens, Token.write]

/-- The closing tag ends the text of an entry, so that the gap behind it is a text of its own. -/
lemma takes_write {rest : List Char} {ps : List Piece} (hrest : EndsText rest)
    (h : Reader.Takes piece rest ps []) : ∃ texts : List (List Char),
      Reader.Takes piece (e.write ++ rest) (piecesOf [] e.tokens ++ (texts.map .text ++ ps)) [] := by
  obtain ⟨texts, hgap⟩ := takes_gap e.gap hrest h
  have hclosing : Reader.Takes piece ((Token.closing e.tag.tagName).write ++ (e.gap.chars ++ rest))
      (.closeTag e.tag.tagName.qname :: (texts.map .text ++ ps)) [] := by
    refine Reader.Takes.step (piece_closing _ _) ?_ hgap
    simp only [Token.write, List.length_append]
    simp
  have hall := takes_tokens (.opening e.tag.tagName e.tag.attributes false :: contentTokens e.content)
    (List.forall_mem_nil _) List.not_mem_nil (by simp [EndsText, Token.write]) hclosing
  refine ⟨texts, ?_⟩
  have hwritten : e.write ++ rest = escape [] ++ ((.opening e.tag.tagName e.tag.attributes false ::
      contentTokens e.content).flatMap Token.write ++
      ((Token.closing e.tag.tagName).write ++ (e.gap.chars ++ rest))) := by
    simp [write, tokens, escape]
  rw [hwritten, tokens, ← List.cons_append, piecesOf_append_closing, List.append_assoc]
  exact hall

/-- The tags of an entry make one node, and from the node the entry is made. -/
lemma builds_tokens : ∃ node, Builds e.tokens [] [node] [] ∧
    entryOf? node = if e.isBlank then none else some e.entry := by
  obtain ⟨nodes, left, hcontent, hshown⟩ := shows_content e.content []
  refine ⟨_, hcontent.element e.tag.tagName e.tag.plainAttributes_attributes [], ?_⟩
  have htext : nodesText (nodes ++ textNodes left) = contentShown e.content := by
    rw [nodesText_append, nodesText_textNodes, hshown, List.nil_append]
  have hblank : (trim (contentShown e.content)).isEmpty = e.isBlank := by
    rw [Bool.eq_iff_iff, List.isEmpty_iff, trim_eq_nil_iff, isBlank, List.all_eq_true]
  rw [entryOf?, htext, e.tag.tagOf_tagName]
  simp only [hblank, entry, trimmed, String.toList_ofList]

end WrittenEntry

/-- A comment with blank text in front of its entries. -/
def writeComment (gap : Gap) (es : List WrittenEntry) : String :=
  String.ofList (gap.chars ++ es.flatMap WrittenEntry.write)

lemma endsText_entries (es : List WrittenEntry) : EndsText (es.flatMap WrittenEntry.write) := by
  cases es with
  | nil => simp [EndsText]
  | cons e es => exact e.endsText_write _

/-- Text outside of elements makes no entry. -/
lemma filterMap_texts (texts : List (List Char)) : (texts.map Node.text).filterMap entryOf? = [] := by
  simp [List.filterMap_map, Function.comp_def, entryOf?]

/-- From written entries nodes are read that make the entries. -/
lemma reads_entries (es : List WrittenEntry) : ∃ ps nodes,
    Reader.Takes piece (es.flatMap WrittenEntry.write) ps [] ∧
    (∀ top : OpenElement, build? ps top [] = some (top.add nodes).children.reverse) ∧
    nodes.filterMap entryOf? = (es.filter (!·.isBlank)).map WrittenEntry.entry := by
  induction es with
  | nil => exact ⟨[], [], takes_end, fun top => rfl, rfl⟩
  | cons e es ih =>
    obtain ⟨ps, nodes, htakes, hbuild, hentries⟩ := ih
    obtain ⟨texts, hmore⟩ := e.takes_write (endsText_entries es) htakes
    obtain ⟨node, hbuilds, hentry⟩ := e.builds_tokens
    refine ⟨_, [node] ++ (texts.map .text ++ nodes), hmore, fun top => ?_, ?_⟩
    · have hnode := hbuilds [] (texts.map .text ++ ps) top []
      rw [List.append_nil] at hnode
      rw [hnode]
      change build? (texts.map .text ++ ps) (top.add [node]) [] = _
      rw [build?_texts, hbuild, OpenElement.add_add, OpenElement.add_add]
    · rw [List.filterMap_append, List.filterMap_append, filterMap_texts, hentries, List.filter_cons,
        List.filterMap_cons, hentry]
      cases e.isBlank <;> rfl

lemma allowed_writeComment (gap : Gap) (es : List WrittenEntry) :
    ∀ c ∈ (writeComment gap es).toList, isAllowed c = true := by
  rw [writeComment, String.toList_ofList]
  refine List.forall_mem_append.2 ⟨gap.allowed, fun c hc => ?_⟩
  obtain ⟨e, -, hc⟩ := List.mem_flatMap.1 hc
  rcases List.mem_append.1 hc with hc | hc
  · obtain ⟨t, -, hc⟩ := List.mem_flatMap.1 hc
    exact allowed_write t c hc
  · exact e.gap.allowed c hc

lemma fragment?_writeComment (gap : Gap) (es : List WrittenEntry) : ∃ nodes,
    fragment? (writeComment gap es).toList = some nodes ∧
      nodes.filterMap entryOf? = (es.filter (!·.isBlank)).map WrittenEntry.entry := by
  obtain ⟨ps, nodes, htakes, hbuild, hentries⟩ := reads_entries es
  obtain ⟨texts, hall⟩ := takes_gap gap (endsText_entries es) htakes
  have hpieces : pieces? (writeComment gap es).toList = some (texts.map .text ++ ps) := by
    refine pieces?_eq (allowed_writeComment gap es) ?_
    rw [writeComment, String.toList_ofList]
    exact hall
  refine ⟨texts.map .text ++ nodes, ?_, ?_⟩
  · rw [fragment?, hpieces]
    change build? (texts.map .text ++ ps) _ [] = _
    rw [build?_texts, hbuild, OpenElement.add_add]
    simp [OpenElement.add]
  · rw [List.filterMap_append, filterMap_texts, hentries, List.nil_append]

/-- Reading a comment undoes writing it: it gives the entries that show anything but blanks, in order,
each with its tag and with the text that it shows. -/
theorem parse_writeComment (gap : Gap) (es : List WrittenEntry) :
    Comment.parse (writeComment gap es) =
      ⟨writeComment gap es, (es.filter (!·.isBlank)).map WrittenEntry.entry⟩ := by
  obtain ⟨nodes, hnodes, hentries⟩ := fragment?_writeComment gap es
  rw [Comment.parse, hnodes]
  simp only [hentries]

example :
    let rhino : Identifier := ⟨⟨"Rhino".toList, by simp [isAllowed], by simp⟩, by simp⟩
    let curve : Identifier := ⟨⟨"Curve".toList, by simp [isAllowed], by simp⟩, by simp⟩
    let content : List ContentItem := [.text ⟨"a < ".toList, by simp [isAllowed], by simp⟩,
      .see ⟨some ⟨'T', rfl⟩, [rhino], curve, none⟩]
    let e : WrittenEntry := ⟨.summary, content, ⟨['\n'], by simp [isAllowed, isSpace], by simp [isBlank]⟩⟩
    writeComment ⟨[], by simp, by simp⟩ [e] =
        "<summary>a &lt; <see cref=\"T:Rhino.Curve\"/></summary>\n" ∧
      e.entry = ⟨.summary, "a < Curve"⟩ := by
  decide

end BindingDocs.Documentation
