/-!
The elements and attributes of HTML that have rules of their own.
-/
namespace Stencil.Markup

abbrev Name := List Char

def isOneOf (names : List String) (name : Name) : Bool := names.any fun n => n.toList == name

/-- Elements that have neither content nor a closing tag. -/
def isVoid : Name → Bool :=
  isOneOf ["area", "base", "basefont", "bgsound", "br", "col", "command", "embed", "frame", "hr",
    "image", "img", "input", "keygen", "link", "meta", "nextid", "param", "source", "track", "wbr"]

structure Spacing where
  collapse : Bool
  destroy : Bool
  trim : Bool
  deriving DecidableEq, Repr

def Spacing.verbatim : Spacing := ⟨false, false, false⟩

def Spacing.inline : Spacing := ⟨true, false, false⟩

def Spacing.content : Spacing := ⟨true, false, true⟩

/-- Elements that hold other elements; so does a document. -/
def Spacing.layout : Spacing := ⟨true, true, true⟩

def isContent : Name → Bool :=
  isOneOf ["address", "audio", "button", "canvas", "caption", "dd", "details", "dt", "figcaption",
    "h1", "h2", "h3", "h4", "h5", "h6", "iframe", "label", "legend", "li", "meter", "noscript",
    "object", "option", "output", "p", "progress", "slot", "summary", "td", "template", "th",
    "title", "video"]

def isLayout : Name → Bool :=
  isOneOf ["article", "aside", "blockquote", "body", "colgroup", "datalist", "dialog", "div", "dl",
    "fieldset", "figure", "footer", "form", "head", "header", "hgroup", "html", "main", "map",
    "menu", "nav", "ol", "optgroup", "picture", "section", "select", "svg", "table", "tbody",
    "tfoot", "thead", "tr", "ul"]

/-- White space among the children of an element, or of the document if it has no name. -/
def Spacing.of (parent : Name) : Spacing :=
  if parent.isEmpty || isLayout parent then .layout
  else if isContent parent then .content
  else if isOneOf ["pre", "textarea"] parent then .verbatim
  else .inline

def endsParagraph : Name → Bool :=
  isOneOf ["address", "article", "aside", "blockquote", "details", "div", "dl", "fieldset",
    "figcaption", "figure", "footer", "form", "h1", "h2", "h3", "h4", "h5", "h6", "header",
    "hgroup", "hr", "main", "menu", "nav", "ol", "p", "pre", "section", "table", "ul"]

/-- The elements before which the closing tag of an element may be left out. -/
def successors : List (List String × List String) :=
  [(["li"], ["li"]), (["dt", "dd"], ["dt", "dd"]), (["rt", "rp"], ["rt", "rp"]),
    (["optgroup"], ["optgroup"]), (["option"], ["option", "optgroup"]),
    (["thead", "tbody"], ["tbody", "tfoot"]), (["tr"], ["tr"]), (["td", "th"], ["td", "th"])]

/-- The closing tag of an element may be left out before another element. -/
def closesBefore (name next : Name) : Bool :=
  (isOneOf ["p"] name && endsParagraph next) ||
    successors.any fun (names, others) => isOneOf names name && isOneOf others next

/-- The closing tag of an element may be left out at the end of its parent. -/
def closesLast (parent name : Name) : Bool :=
  if isOneOf ["p"] name then
    !isOneOf ["a", "audio", "del", "ins", "map", "noscript", "video"] parent
  else
    isOneOf ["html", "head", "body", "li", "dt", "dd", "rt", "rp", "optgroup", "option", "tbody",
      "tfoot", "tr", "td", "th"] name

/-- The closing tag of an element may always be left out. -/
def closesAnyway : Name → Bool := isOneOf ["html", "head", "body"]

/-- The opening tag of an element may be left out if it has no attributes. -/
def opensAnyway : Name → Bool := isOneOf ["html", "head"]

def isBoolean : Name → Bool :=
  isOneOf ["allowfullscreen", "async", "autofocus", "autoplay", "checked", "controls", "default",
    "defer", "disabled", "formnovalidate", "hidden", "inert", "ismap", "itemscope", "loop",
    "multiple", "muted", "nomodule", "novalidate", "open", "playsinline", "readonly", "required",
    "reversed", "scoped", "seamless", "selected"]

def isIdleWhenEmpty (name : Name) : Bool :=
  isOneOf ["class", "dir", "id", "lang", "name", "style", "title"] name ||
    "on".toList.isPrefixOf name

/-- Attributes whose values are words between white space. -/
def holdsWords : Name → Bool := isOneOf ["class"]

def isScriptType : Name → Bool :=
  isOneOf ["application/ecmascript", "application/javascript", "application/x-ecmascript",
    "application/x-javascript", "text/ecmascript", "text/javascript", "text/javascript1.0",
    "text/javascript1.1", "text/javascript1.2", "text/javascript1.3", "text/javascript1.4",
    "text/javascript1.5", "text/jscript", "text/livescript", "text/x-ecmascript",
    "text/x-javascript"]

/-- Elements, an attribute, and the value that it has when it is not there. -/
def initialValues : List (List String × String × String) :=
  [(["img"], "decoding", "auto"), (["form"], "enctype", "application/x-www-form-urlencoded"),
    (["button", "input"], "formenctype", "application/x-www-form-urlencoded"),
    (["iframe", "img"], "loading", "eager"), (["style", "link"], "media", "all"),
    (["form"], "method", "get"), (["area"], "shape", "rect"), (["col", "colgroup"], "span", "1"),
    (["a", "form"], "target", "_self"), (["button"], "type", "submit"), (["input"], "type", "text"),
    (["link", "style"], "type", "text/css"), (["td", "th"], "colspan", "1"),
    (["td", "th"], "rowspan", "1")]

/-- An attribute says nothing more than its absence would. -/
def isInitial (element name value : Name) : Bool :=
  (isOneOf ["script"] element && isOneOf ["type"] name && isScriptType value) ||
    initialValues.any fun (elements, known, initial) =>
      isOneOf elements element && known.toList == name && initial.toList == value

end Stencil.Markup
