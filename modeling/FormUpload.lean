import FormUpload.Echo.Server
import FormUpload.Lifecycle.Session
import FormUpload.Main
import FormUpload.Response.Reader
import FormUpload.Proofs.Lifecycle.History
import FormUpload.Proofs.Lifecycle.Slot
import FormUpload.Proofs.Lifecycle.Notification
import FormUpload.Proofs.Text.Cutting
import FormUpload.Proofs.Text.Percent
import FormUpload.Proofs.MediaType.Reading
import FormUpload.Proofs.Multipart.Layout
import FormUpload.Proofs.Multipart.Decoding
import FormUpload.Proofs.Json.Spelling
import FormUpload.Proofs.Json.Compact
import FormUpload.Proofs.Json.Nesting
import FormUpload.Proofs.Json.Skipping
import FormUpload.Proofs.Json.Pretty
import FormUpload.Proofs.Response.Bodies
import FormUpload.Proofs.Response.Fields
import FormUpload.Proofs.Response.Members
import FormUpload.Proofs.Http.HeaderLines
import FormUpload.Proofs.Echo.Fields
import FormUpload.Proofs.Echo.Parameters
import FormUpload.Proofs.MediaType.Guessing
import FormUpload.Proofs.Echo.Documents
import FormUpload.Proofs.Http.Answers
import FormUpload.Proofs.Url.Address
import FormUpload.Proofs.Echo.Upload
import FormUpload.Proofs.Http.Heads
import FormUpload.Proofs.Http.Redirects
import FormUpload.Proofs.Http.Scripts
import FormUpload.Proofs.Uploader.Submission
import FormUpload.Proofs.Uploader.StatusPolicy
import FormUpload.Proofs.Uploader.Completeness
import FormUpload.Proofs.Uploader.Requests
import FormUpload.Proofs.Echo.Names
import FormUpload.Proofs.Uploader.Confidentiality
import FormUpload.Proofs.FileTree.Walking
import FormUpload.Proofs.CommandLine.Verdict
import FormUpload.Proofs.Multipart.ContentTypes
import FormUpload.Proofs.Uploader.Refusal
import FormUpload.Proofs.Multipart.Lengths
import FormUpload.Proofs.Uploader.Announcement
import FormUpload.Proofs.FileTree.Places
import FormUpload.Proofs.CommandLine.Settings
import FormUpload.Proofs.CommandLine.Spelling
import FormUpload.Proofs.CommandLine.Asking
import FormUpload.Proofs.CommandLine.Mixing
import FormUpload.Proofs.Multipart.UntypedFiles
import FormUpload.Proofs.Text.Trimming
import FormUpload.Proofs.Uploader.Construction
import FormUpload.Proofs.Uploader.ResponseHeaders
import FormUpload.Proofs.Http.HeadText
import FormUpload.Proofs.Http.WholeAnswers
