import DiagramReview.Server.Capabilities

namespace DiagramReview.Shape

def position : Shape := record [need "line" count, need "character" count]

def range : Shape := record [need "start" position, need "end" position]

def location : Shape := record [need "uri" uri, need "range" range]

def edit : Shape := record [need "range" range, need "newText" text]

def command : Shape :=
  record [need "title" text, need "command" text, may "arguments" (listOf any)]

def markup : Shape := record [need "kind" (word ["plaintext", "markdown"]), need "value" text]

def documentation : Shape := either text markup

def diagnostic : Shape :=
  record
    [need "range" range,
     may "severity" whole,
     may "code" token,
     may "codeDescription" (record [need "href" uri]),
     may "source" text,
     need "message" text,
     may "relatedInformation" (listOf (record [need "location" location, need "message" text])),
     may "tags" (listOf whole),
     may "data" any]

def document : Shape := record [need "uri" uri]

def onDocument : String × Presence × Shape := need "textDocument" document

def atPosition : List (String × Presence × Shape) := [onDocument, need "position" position]

def progress : String × Presence × Shape := may "workDoneToken" token

def tokens : List (String × Presence × Shape) := [progress, may "partialResultToken" token]

def parts (members : List (String × Presence × Shape)) : Shape := object members any

def folder : Shape := record [need "uri" uri, need "name" text]

def start : Shape :=
  record
    [may "processId" count,
     may "rootPath" text,
     mayEnd "rootUri" uri,
     may "initializationOptions" any,
     need "capabilities" Capabilities.all,
     mayEnd "trace" (word ["off", "messages", "verbose"]),
     may "workspaceFolders" (listOf folder),
     may "clientInfo" (record [need "name" text, may "version" text]),
     may "locale" text]

def nothing : Shape := record []

def cancelled : Shape := record [need "id" token]

def opened : Shape :=
  record
    [need "textDocument"
      (record [need "uri" uri, need "languageId" text, need "version" whole, need "text" text])]

def change : Shape := record [may "range" range, may "rangeLength" count, need "text" text]

def changed : Shape :=
  record
    [need "textDocument" (record [need "uri" uri, need "version" whole]),
     need "contentChanges" (listOf change)]

def closed : Shape := record [onDocument]

def saving : Shape := record [onDocument, need "reason" whole]

def saved : Shape := record [onDocument, may "text" text]

def hover : Shape := parts (atPosition ++ [progress])

def completion : Shape :=
  parts (atPosition ++ tokens ++
    [may "context" (record [need "triggerKind" whole, may "triggerCharacter" text])])

def inDocument (members : List (String × Presence × Shape)) : Shape :=
  parts (onDocument :: tokens ++ members)

def inPlace (members : List (String × Presence × Shape)) : Shape :=
  parts (atPosition ++ tokens ++ members)

def signature : Shape :=
  record
    [need "label" text,
     may "documentation" documentation,
     may "parameters"
       (listOf (record
         [need "label" (either text (pairOf count)), may "documentation" documentation])),
     may "activeParameter" count]

def signatureHelp : Shape :=
  parts (atPosition ++
    [progress,
     may "context" (record
       [need "triggerKind" whole,
        may "triggerCharacter" text,
        need "isRetrigger" truth,
        may "activeSignatureHelp" (record
          [need "signatures" (listOf signature), may "activeSignature" count,
           may "activeParameter" count])])])

def actionContext : Shape :=
  record
    [need "diagnostics" (listOf diagnostic), may "only" (listOf text), may "triggerKind" whole]

def layout : Shape :=
  object
    [need "tabSize" count, need "insertSpaces" truth, may "trimTrailingWhitespace" truth,
     may "insertFinalNewline" truth, may "trimFinalNewlines" truth]
    (either truth token)

def color : Shape :=
  record [need "red" number, need "green" number, need "blue" number, need "alpha" number]

def hierarchyItem (tags : Shape) : Shape :=
  record
    [need "name" text, need "kind" whole, may "tags" tags, may "detail" text, need "uri" uri,
     need "range" range, need "selectionRange" range, may "data" any]

def aboutItem (tags : Shape) : Shape := parts (need "item" (hierarchyItem tags) :: tokens)

def link : Shape :=
  record [need "range" range, may "target" uri, may "tooltip" text, may "data" any]

def lens : Shape := record [need "range" range, may "command" command, may "data" any]

def hintPart : Shape :=
  record
    [need "value" text, may "tooltip" documentation, may "location" location,
     may "command" command]

def hint : Shape :=
  record
    [need "position" position, need "label" (either text (listOf hintPart)), may "kind" whole,
     may "textEdits" (listOf edit), may "tooltip" documentation, may "paddingLeft" truth,
     may "paddingRight" truth, may "data" any]

def completionItem : Shape :=
  record
    [need "label" text,
     may "labelDetails" (record [may "detail" text, may "description" text]),
     may "kind" whole,
     may "detail" text,
     may "documentation" documentation,
     may "deprecated" truth,
     may "preselect" truth,
     may "sortText" text,
     may "filterText" text,
     may "insertText" text,
     may "insertTextFormat" whole,
     may "insertTextMode" whole,
     may "textEdit"
       (either edit (record [need "newText" text, need "insert" range, need "replace" range])),
     may "additionalTextEdits" (listOf edit),
     may "command" command,
     may "commitCharacters" (listOf text),
     may "data" any,
     may "tags" (listOf whole)]

def fileEdit : Shape :=
  let options (names : List String) := may "options" (record (switches names))
  let mark := may "annotationId" text
  either
    (object
      [need "kind" (word ["create"]), need "uri" uri, options ["overwrite", "ignoreIfExists"],
       mark] any)
    (either
      (object
        [need "kind" (word ["rename"]), need "oldUri" uri, need "newUri" uri,
         options ["overwrite", "ignoreIfExists"], mark] any)
      (object
        [need "kind" (word ["delete"]), need "uri" uri,
         may "options"
           (record (switches ["recursive", "ignoreIfNotExists"] ++ [mark]))] any))

def documentEdits : Shape :=
  record
    [need "textDocument" (record [need "uri" uri, may "version" whole]),
     need "edits" (listOf edit)]

def workspaceEdit : Shape :=
  record
    [mayEnd "changes" (mapOf uri (listOf edit)),
     may "documentChanges" (listOf (either fileEdit documentEdits)),
     may "changeAnnotations"
       (mapOf text
         (record [need "label" text, may "needsConfirmation" truth, may "description" text]))]

def action : Shape :=
  record
    [need "title" text, may "kind" text, may "diagnostics" (listOf diagnostic),
     may "edit" workspaceEdit, may "command" command, may "isPreferred" truth,
     may "disabled" (record [need "reason" text]), may "data" any]

def symbol : Shape :=
  record
    [need "name" text, need "kind" whole, may "tags" (listOf whole), may "containerName" text,
     need "location" (either location document), may "data" any]

def files (members : List String) : Shape :=
  record [need "files" (listOf (record (members.map (need · text))))]

def executed : Shape :=
  parts [need "command" text, ("arguments", .optional, listOf any), progress]

end DiagramReview.Shape
