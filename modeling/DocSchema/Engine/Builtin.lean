import DocSchema.Engine.Basic

/-!
# Bundled types

Documents for common parts of articles: people and organizations, works, and the blocks
and inline parts of their text.
-/

namespace DocSchema.Builtin

def articleDocument : Json := .object [
  ("title", .string "Article"),
  ("extends", .string "CreativeWork"),
  ("description", .string "An article, including news and scholarly articles."),
  ("properties", .object [
    ("content", .object [
      ("type", .string "array"),
      ("items", .object [("$ref", .string "BlockContent")]),
      ("decode", .string "md"),
      ("description", .string "The content of the article, or its Markdown source.")]),
    ("pageStart", .object [
      ("oneOf", .array [
        .object [("type", .string "integer")],
        .object [("type", .string "string")]])]),
    ("pageEnd", .object [
      ("oneOf", .array [
        .object [("type", .string "integer")],
        .object [("type", .string "string")]])])])]

def blockContentDocument : Json := .object [
  ("title", .string "BlockContent"),
  ("description", .string "Block content."),
  ("oneOf", .array [
    .object [("$ref", .string "CodeBlock")],
    .object [("$ref", .string "Heading")],
    .object [("$ref", .string "ImageObject")],
    .object [("$ref", .string "List")],
    .object [("$ref", .string "Paragraph")]])]

def codeBlockDocument : Json := .object [
  ("title", .string "CodeBlock"),
  ("extends", .string "Thing"),
  ("description", .string "A code block."),
  ("properties", .object [
    ("programmingLanguage", .object [
      ("type", .string "string"),
      ("aliases", .array [.string "language", .string "lang"])]),
    ("code", .object [("type", .string "string"), ("aliases", .array [.string "text"])])]),
  ("required", .array [.string "code"])]

def creativeWorkDocument : Json := .object [
  ("title", .string "CreativeWork"),
  ("extends", .string "Thing"),
  ("description", .string "A creative work, including books, movies, photographs, software programs, etc."),
  ("properties", .object [
    ("authors", .object [
      ("type", .string "array"),
      ("items", .object [
        ("oneOf", .array [
          .object [("$ref", .string "Person")],
          .object [("$ref", .string "Organization")]])]),
      ("aliases", .array [.string "author"]),
      ("description", .string "The authors of this creative work.")]),
    ("dateCreated", .object [("type", .string "string")]),
    ("dateModified", .object [("type", .string "string")]),
    ("datePublished", .object [("type", .string "string"), ("aliases", .array [.string "date"])]),
    ("keywords", .object [
      ("type", .string "array"),
      ("items", .object [("type", .string "string")]),
      ("aliases", .array [.string "keyword"])]),
    ("licenses", .object [
      ("type", .string "array"),
      ("items", .object [("type", .string "string")]),
      ("aliases", .array [.string "license"])]),
    ("version", .object [
      ("oneOf", .array [
        .object [("type", .string "string")],
        .object [("type", .string "number")]])])])]

def emphasisDocument : Json := .object [
  ("title", .string "Emphasis"),
  ("extends", .string "Thing"),
  ("description", .string "Emphasised content."),
  ("properties", .object [
    ("content", .object [
      ("type", .string "array"),
      ("items", .object [("$ref", .string "InlineContent")])])]),
  ("required", .array [.string "content"])]

def headingDocument : Json := .object [
  ("title", .string "Heading"),
  ("extends", .string "Thing"),
  ("description", .string "A heading."),
  ("properties", .object [
    ("depth", .object [
      ("type", .string "integer"),
      ("default", .integer 1),
      ("aliases", .array [.string "level"])]),
    ("content", .object [
      ("type", .string "array"),
      ("items", .object [("$ref", .string "InlineContent")])])]),
  ("required", .array [.string "depth", .string "content"])]

def imageObjectDocument : Json := .object [
  ("title", .string "ImageObject"),
  ("extends", .string "CreativeWork"),
  ("description", .string "An image file."),
  ("properties", .object [
    ("contentUrl", .object [("type", .string "string"), ("aliases", .array [.string "src"])]),
    ("caption", .object [("type", .string "string")]),
    ("mediaType", .object [
      ("type", .string "string"),
      ("aliases", .array [.string "encodingFormat"])])]),
  ("required", .array [.string "contentUrl"])]

def inlineContentDocument : Json := .object [
  ("title", .string "InlineContent"),
  ("description", .string "Inline content."),
  ("oneOf", .array [
    .object [("type", .string "null")],
    .object [("type", .string "boolean")],
    .object [("type", .string "number")],
    .object [("type", .string "string")],
    .object [("$ref", .string "Emphasis")],
    .object [("$ref", .string "Link")],
    .object [("$ref", .string "Strong")]])]

def linkDocument : Json := .object [
  ("title", .string "Link"),
  ("extends", .string "Thing"),
  ("description", .string "A hyperlink to other pages, sections within the same document, resources, or any URL."),
  ("properties", .object [
    ("target", .object [("type", .string "string"), ("aliases", .array [.string "href"])]),
    ("relation", .object [("type", .string "string"), ("aliases", .array [.string "rel"])]),
    ("content", .object [
      ("type", .string "array"),
      ("items", .object [("$ref", .string "InlineContent")])])]),
  ("required", .array [.string "target", .string "content"])]

def listDocument : Json := .object [
  ("title", .string "List"),
  ("extends", .string "Thing"),
  ("description", .string "A list of items."),
  ("properties", .object [
    ("order", .object [
      ("enum", .array [.string "ascending", .string "descending", .string "unordered"]),
      ("default", .string "unordered")]),
    ("items", .object [
      ("type", .string "array"),
      ("items", .object [("$ref", .string "ListItem")]),
      ("aliases", .array [.string "item"])])]),
  ("required", .array [.string "order", .string "items"])]

def listItemDocument : Json := .object [
  ("title", .string "ListItem"),
  ("extends", .string "Thing"),
  ("description", .string "A single item in a list."),
  ("properties", .object [
    ("checked", .object [("type", .string "boolean")]),
    ("content", .object [
      ("type", .string "array"),
      ("items", .object [("$ref", .string "BlockContent")])])]),
  ("required", .array [.string "content"])]

def organizationDocument : Json := .object [
  ("title", .string "Organization"),
  ("extends", .string "Thing"),
  ("description", .string "An organization such as a school, NGO, corporation, club, etc."),
  ("properties", .object [
    ("address", .object [("type", .string "string")]),
    ("legalName", .object [("type", .string "string")]),
    ("parentOrganization", .object [("$ref", .string "Organization")])])]

def paragraphDocument : Json := .object [
  ("title", .string "Paragraph"),
  ("extends", .string "Thing"),
  ("description", .string "A paragraph."),
  ("properties", .object [
    ("content", .object [
      ("type", .string "array"),
      ("items", .object [("$ref", .string "InlineContent")])])]),
  ("required", .array [.string "content"])]

def personDocument : Json := .object [
  ("title", .string "Person"),
  ("extends", .string "Thing"),
  ("description", .string "A person (alive, dead, undead, or fictional)."),
  ("properties", .object [
    ("affiliations", .object [
      ("type", .string "array"),
      ("items", .object [("$ref", .string "Organization")]),
      ("aliases", .array [.string "affiliation"])]),
    ("emails", .object [
      ("type", .string "array"),
      ("items", .object [("type", .string "string")]),
      ("aliases", .array [.string "email"])]),
    ("familyNames", .object [
      ("type", .string "array"),
      ("items", .object [("type", .string "string")]),
      ("aliases", .array [
        .string "familyName",
        .string "lastName",
        .string "lastNames",
        .string "surname",
        .string "surnames"])]),
    ("givenNames", .object [
      ("type", .string "array"),
      ("items", .object [("type", .string "string")]),
      ("aliases", .array [.string "firstName", .string "firstNames", .string "givenName"])]),
    ("honorificPrefix", .object [
      ("type", .string "string"),
      ("aliases", .array [.string "prefix"])]),
    ("honorificSuffix", .object [
      ("type", .string "string"),
      ("aliases", .array [.string "suffix"])])])]

def strongDocument : Json := .object [
  ("title", .string "Strong"),
  ("extends", .string "Thing"),
  ("description", .string "Strongly emphasised content."),
  ("properties", .object [
    ("content", .object [
      ("type", .string "array"),
      ("items", .object [("$ref", .string "InlineContent")])])]),
  ("required", .array [.string "content"])]

def thingDocument : Json := .object [
  ("title", .string "Thing"),
  ("description", .string "The most generic type of item."),
  ("properties", .object [
    ("id", .object [
      ("type", .string "string"),
      ("description", .string "The identifier for this item.")]),
    ("name", .object [
      ("type", .string "string"),
      ("aliases", .array [.string "title"]),
      ("description", .string "The name of the item.")]),
    ("alternateNames", .object [
      ("type", .string "array"),
      ("items", .object [("type", .string "string")]),
      ("aliases", .array [.string "alternateName"])]),
    ("description", .object [
      ("type", .string "string"),
      ("description", .string "A description of the item.")]),
    ("identifiers", .object [
      ("type", .string "array"),
      ("items", .object [("type", .string "string")]),
      ("aliases", .array [.string "identifier"])]),
    ("url", .object [
      ("type", .string "string"),
      ("description", .string "The URL of the item.")]),
    ("meta", .object [
      ("type", .string "object"),
      ("description", .string "Metadata associated with this item.")])]),
  ("required", .array [.string "type"])]

/-- The bundled documents by the names of their types. -/
def documents : Keyed Json := [
  ("Article", articleDocument),
  ("BlockContent", blockContentDocument),
  ("CodeBlock", codeBlockDocument),
  ("CreativeWork", creativeWorkDocument),
  ("Emphasis", emphasisDocument),
  ("Heading", headingDocument),
  ("ImageObject", imageObjectDocument),
  ("InlineContent", inlineContentDocument),
  ("Link", linkDocument),
  ("List", listDocument),
  ("ListItem", listItemDocument),
  ("Organization", organizationDocument),
  ("Paragraph", paragraphDocument),
  ("Person", personDocument),
  ("Strong", strongDocument),
  ("Thing", thingDocument)]

/-- The source of the bundled types. -/
def source : Source := .memory documents

/-- The names of the bundled types. -/
def typeNames : List String := Keyed.keys documents

/-- An engine over the bundled types. -/
def engine : Engine := Engine.ofSource source

end DocSchema.Builtin
