import Proofplane.Invitation.Service

/-!
# The HTML of an invitation

The mail shows the name of the workspace and links to the invitation, whatever characters the two have.
The five passes that escape them come to one pass, since no pass writes a character that a later one looks
for; and what is escaped can end neither the text nor the attribute it stands in.

* `escapeHtml_toList`     the five passes are one;
* `escapeHtml_entities`, `unescape_escapeHtml`   what is left of the characters, and the way back;
* `inviteTags`            the tags of the template, with the link in its place;
* `invitationMail_reads`  what a reader makes of the document, token by token;
* `invitation_mail_html`  **its tags and attributes are those of the template**.
-/

namespace Proofplane
open Base

/-! ## The five passes -/

/-- each character becomes what the passes make of it alone -/
theorem escapeHtml_toList (s : String) : (escapeHtml s).toList = s.toList.flatMap escapeChar := by
  have hamp : "&amp;".toList = ['&', 'a', 'm', 'p', ';'] := String.toList_ofList
  have hlt : "&lt;".toList = ['&', 'l', 't', ';'] := String.toList_ofList
  have hgt : "&gt;".toList = ['&', 'g', 't', ';'] := String.toList_ofList
  have hquot : "&quot;".toList = ['&', 'q', 'u', 'o', 't', ';'] := String.toList_ofList
  have hapos : "&#39;".toList = ['&', '#', '3', '9', ';'] := String.toList_ofList
  unfold escapeHtml
  dsimp only
  simp only [replaceChar_toList, List.flatMap_assoc, hamp, hlt, hgt, hquot, hapos]
  refine congrArg (fun f => List.flatMap f s.toList) (funext fun c => ?_)
  by_cases h1 : c = '&'
  · subst h1
    rfl
  by_cases h2 : c = '<'
  · subst h2
    rfl
  by_cases h3 : c = '>'
  · subst h3
    rfl
  by_cases h4 : c = '"'
  · subst h4
    rfl
  by_cases h5 : c = '\''
  · subst h5
    rfl
  unfold escapeChar
  simp only [if_neg h1, if_neg h2, if_neg h3, if_neg h4, if_neg h5, List.flatMap_singleton]

theorem unescape_escapeHtml (s : String) : unescape (escapeHtml s).toList = s.toList := by
  rw [escapeHtml_toList, unescape_flatMap]

theorem escapeHtml_injective : Function.Injective escapeHtml := by
  intro s s' h
  have hlist := congrArg (fun t : String => unescape t.toList) h
  rw [unescape_escapeHtml, unescape_escapeHtml] at hlist
  exact String.toList_inj.mp hlist

theorem mem_escapeHtml {s : String} {c : Char} (h : c ∈ (escapeHtml s).toList) :
    c ≠ '<' ∧ c ≠ '>' ∧ c ≠ '"' ∧ c ≠ '\'' :=
  mem_flatMap_escapeChar (escapeHtml_toList s ▸ h)

theorem escapeHtml_amp {s : String} {a b : List Char} (h : (escapeHtml s).toList = a ++ '&' :: b) :
    ∃ e ∈ htmlEntities, e <+: '&' :: b :=
  amp_begins_entity ((escapeHtml_toList s).symm.trans h)

/-! ## The document -/

/-- a tag of the template, in which only the link has an attribute -/
def openTag (name : String) : HtmlTag := ⟨false, name.toList, []⟩

def closeTag (name : String) : HtmlTag := ⟨true, name.toList, []⟩

/-- the tags of the template around a link -/
def inviteTags (href : List Char) : List HtmlTag :=
  [openTag "p", closeTag "p", openTag "p", (openTag "a").with "href".toList href, closeTag "a",
    closeTag "p", openTag "p", closeTag "p"]

/-- the template with a name and a link in it, as a reader sees it -/
def inviteTokens (name href : List Char) : List HtmlToken :=
  .tag (openTag "p") :: htmlChars "You have been invited to join ".toList ++ (htmlChars name ++
    (htmlChars " as an administrator.".toList ++ [.tag (closeTag "p"), .tag (openTag "p")] ++
      ([.tag ((openTag "a").with "href".toList href)] ++ (htmlChars "Open invitation".toList ++
        ([.tag (closeTag "a"), .tag (closeTag "p"), .tag (openTag "p")] ++
          (htmlChars "This link expires in seven days.".toList ++ [.tag (closeTag "p")]))))))

/-- the template with a name and a link that can end neither the text nor the attribute -/
theorem template_reads {name href : List Char} (hname : ∀ c ∈ name, c ≠ '<') (hhref : ∀ c ∈ href, c ≠ '"') :
    Reads .data
      ("<p>You have been invited to join ".toList ++ (name ++
        (" as an administrator.</p><p><a href=\"".toList ++ (href ++ (['"', '>'] ++
          "Open invitation</a></p><p>This link expires in seven days.</p>".toList)))))
      (inviteTokens name href) .data := by
  have hopening : Reads .data "<p>You have been invited to join ".toList
      (.tag (openTag "p") :: htmlChars "You have been invited to join ".toList) .data := by
    unfold Reads
    decide +kernel
  have hmiddle : Reads .data " as an administrator.</p><p><a href=\"".toList
      (htmlChars " as an administrator.".toList ++ [.tag (closeTag "p"), .tag (openTag "p")])
      (.quoted '"' (openTag "a") "href".toList []) := by
    unfold Reads
    decide +kernel
  have hending : Reads .data "Open invitation</a></p><p>This link expires in seven days.</p>".toList
      (htmlChars "Open invitation".toList ++
        ([.tag (closeTag "a"), .tag (closeTag "p"), .tag (openTag "p")] ++
          (htmlChars "This link expires in seven days.".toList ++ [.tag (closeTag "p")]))) .data := by
    unfold Reads
    decide +kernel
  have hvalue := reads_quoted (openTag "a") "href".toList [] hhref
  unfold inviteTokens
  refine hopening.append ((reads_data hname).append (hmiddle.append (hvalue.append ?_)))
  exact (reads_lastQuote _ _ _).append hending

/-- the name and the link are read as they stand: neither is left before the template goes on -/
theorem invitationMail_reads (i : WorkspaceInvitation) (workspaceName url idempotencyKey : String) :
    Reads .data (invitationMail i workspaceName url idempotencyKey).html.toList
      (inviteTokens (escapeHtml workspaceName).toList (escapeHtml url).toList) .data := by
  have h := template_reads (fun c hc => (mem_escapeHtml (s := workspaceName) hc).1)
    fun c hc => (mem_escapeHtml (s := url) hc).2.2.1
  have hsplit : "\">Open invitation</a></p><p>This link expires in seven days.</p>"
      = String.ofList ['"', '>'] ++ "Open invitation</a></p><p>This link expires in seven days.</p>" := by
    decide +kernel
  unfold invitationMail
  rw [hsplit]
  simp only [String.toList_append, String.toList_ofList, List.append_assoc]
  exact h

/-- what is put in for the name adds no tag -/
theorem htmlTags_inviteTokens (name href : List Char) :
    htmlTags (inviteTokens name href) = inviteTags href := by
  unfold inviteTokens
  simp only [htmlTags_append, htmlTags_tag, htmlTags_htmlChars, htmlTags_nil, List.nil_append,
    List.cons_append]
  rfl

/-- a text that is escaped has none of the characters that HTML reads as markup, each ampersand in it begins
an entity, and with the entities read it is the text; so the mail to any workspace with any link has the
tags of the template, and the one attribute of these is the link -/
theorem invitation_mail_html :
    (∀ s : String,
      (∀ c ∈ (escapeHtml s).toList, c ≠ '<' ∧ c ≠ '>' ∧ c ≠ '"' ∧ c ≠ '\'') ∧
      (∀ a b, (escapeHtml s).toList = a ++ '&' :: b → ∃ e ∈ htmlEntities, e <+: '&' :: b) ∧
      unescape (escapeHtml s).toList = s.toList) ∧
    Function.Injective escapeHtml ∧
    (∀ (i : WorkspaceInvitation) (workspaceName url idempotencyKey : String),
      ∃ href, unescape href = url.toList ∧
        htmlTags (htmlTokens (invitationMail i workspaceName url idempotencyKey).html)
          = [openTag "p", closeTag "p", openTag "p", ⟨false, "a".toList, [("href".toList, href)]⟩,
              closeTag "a", closeTag "p", openTag "p", closeTag "p"]) := by
  refine ⟨fun s => ⟨fun c => mem_escapeHtml, fun a b => escapeHtml_amp, unescape_escapeHtml s⟩,
    escapeHtml_injective, ?_⟩
  intro i workspaceName url idempotencyKey
  refine ⟨(escapeHtml url).toList, unescape_escapeHtml url, ?_⟩
  have hreads := invitationMail_reads i workspaceName url idempotencyKey
  unfold htmlTokens
  rw [hreads]
  exact htmlTags_inviteTokens _ _

end Proofplane
