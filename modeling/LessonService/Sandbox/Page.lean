import LessonService.Text.Basic

namespace LessonService.Sandbox

inductive Place where
  | policy
  | title
  | nonce
  | react
  | reactDom
  | tailwind
  | code
  | entryPoint
deriving DecidableEq

/-- Text that never changes, or a place where a value is put in. -/
inductive Piece where
  | fixed (t : Text)
  | place (p : Place)

/-- Pieces with a value in each place. -/
def fill (values : Place → Text) (pieces : List Piece) : Text :=
  pieces.flatMap fun
    | .fixed t => t
    | .place p => values p

/-- The page guards itself against errors of the lesson, and shows them in its stead. -/
def page : List Piece := [
  .fixed (Text.ofLines [
    "<!DOCTYPE html>",
    "<html lang=\"en\">",
    "  <head>",
    "    <meta charset=\"utf-8\" />",
    "    <meta name=\"viewport\" content=\"width=device-width, initial-scale=1\" />",
    "    <meta http-equiv=\"Content-Security-Policy\" content=\""]),
  .place .policy,
  .fixed (Text.ofLines [
    "\" />",
    "    <title>"]),
  .place .title,
  .fixed (Text.ofLines [
    "</title>",
    "    <script nonce=\""]),
  .place .nonce,
  .fixed (Text.ofLines [
    "\">",
    "      (function () \x7b",
    "        \"use strict\";",
    "        function renderFailure(error) \x7b",
    "          var root = document.getElementById(\"root\") || document.body;",
    "          var message = error && error.message ? error.message : String(error);",
    "          var notice = document.createElement(\"div\");",
    "          notice.setAttribute(\"role\", \"alert\");",
    "          notice.style.cssText = \"padding: 20px; color: #b91c1c; font-family: system-ui, sans-serif;\";",
    "          notice.textContent = \"Error rendering lesson: \" + message;",
    "          root.textContent = \"\";",
    "          root.appendChild(notice);",
    "          console.error(\"Lesson render error:\", error);",
    "        \x7d",
    "        window.__lessonRenderFailure = renderFailure;",
    "        window.addEventListener(\"error\", function (event) \x7b",
    "          renderFailure(event.error || event.message);",
    "          event.preventDefault();",
    "        \x7d);",
    "        window.addEventListener(\"unhandledrejection\", function (event) \x7b",
    "          renderFailure(event.reason);",
    "          event.preventDefault();",
    "        \x7d);",
    "      \x7d)();",
    "    </script>",
    "    <script nonce=\""]),
  .place .nonce,
  .fixed (Text.ofString "\" crossorigin src=\""),
  .place .react,
  .fixed (Text.ofLines [
    "\"></script>",
    "    <script nonce=\""]),
  .place .nonce,
  .fixed (Text.ofString "\" crossorigin src=\""),
  .place .reactDom,
  .fixed (Text.ofLines [
    "\"></script>",
    "    <script nonce=\""]),
  .place .nonce,
  .fixed (Text.ofString "\" src=\""),
  .place .tailwind,
  .fixed (Text.ofLines [
    "\"></script>",
    "  </head>",
    "  <body>",
    "    <div id=\"root\"></div>",
    "    <script nonce=\""]),
  .place .nonce,
  .fixed (Text.ofLines [
    "\">",
    "      const \x7b useState, useEffect, useCallback, useMemo, useRef, useContext, useReducer \x7d = React;",
    "",
    ""]),
  .place .code,
  .fixed (Text.ofLines [
    "",
    "",
    "      class LessonErrorBoundary extends React.Component \x7b",
    "        constructor(props) \x7b",
    "          super(props);",
    "          this.state = \x7b message: null \x7d;",
    "        \x7d",
    "        static getDerivedStateFromError(error) \x7b",
    "          return \x7b message: error && error.message ? error.message : String(error) \x7d;",
    "        \x7d",
    "        componentDidCatch(error) \x7b",
    "          console.error(\"Lesson render error:\", error);",
    "        \x7d",
    "        render() \x7b",
    "          if (this.state.message === null) \x7b",
    "            return this.props.children;",
    "          \x7d",
    "          return React.createElement(",
    "            \"div\",",
    "            \x7b role: \"alert\", style: \x7b padding: \"20px\", color: \"#b91c1c\", fontFamily: \"system-ui, sans-serif\" \x7d \x7d,",
    "            \"Error rendering lesson: \" + this.state.message",
    "          );",
    "        \x7d",
    "      \x7d",
    "",
    "      try \x7b",
    "        const root = ReactDOM.createRoot(document.getElementById(\"root\"));",
    "        root.render(React.createElement(LessonErrorBoundary, null, React.createElement("]),
  .place .entryPoint,
  .fixed (Text.ofLines [
    ")));",
    "      \x7d catch (error) \x7b",
    "        window.__lessonRenderFailure(error);",
    "      \x7d",
    "    </script>",
    "  </body>",
    "</html>"])]

end LessonService.Sandbox
