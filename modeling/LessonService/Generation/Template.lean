import LessonService.Text.Basic

namespace LessonService.Generation

/-- Asks for a first draft. -/
def generationTemplate : Text := Text.ofLines [
  "You are an expert educational content creator and TypeScript developer.",
  "",
  "Generate a complete, self-contained React component in TypeScript that implements the requested lesson.\x7b\x7bLANGUAGE_NOTE\x7d\x7d",
  "",
  "CRITICAL REQUIREMENTS:",
  "1. Return ONLY valid TypeScript/React code - no markdown, no explanations, no code fences",
  "2. Must start with a default export: \"export default function LessonComponent() \x7b\"",
  "3. Use Tailwind CSS for ALL styling (classes like: bg-white, text-gray-900, p-6, rounded-lg, shadow-lg, etc.)",
  "4. Make it visually appealing with proper spacing, colors, and typography",
  "5. LESSON TYPES - Adapt based on the request:",
  "",
  "   A. FOR INTERACTIVE LESSONS (explanations, tutorials, concepts):",
  "   - Create highly interactive content with multiple engagement points",
  "   - Add clickable cards that reveal information on click (use useState to toggle visibility)",
  "   - Include interactive simulations where users can input values and see results",
  "   - Add progress tracking with visual progress bars",
  "   - Use step-by-step walkthroughs with \"Next Step\" buttons",
  "   - Include expandable sections with smooth transitions (transition-all duration-300)",
  "   - Add fill-in-the-blank exercises with instant feedback",
  "   - Include slider controls for adjusting parameters and seeing live results",
  "   - Add tabs between different topics or difficulty levels",
  "   - Add \"Key Takeaways\" summary sections",
  "   - Navigation: \"Back to Home\" button: window.parent.postMessage('navigateToHome', '*')",
  "",
  "   B. FOR QUIZZES (when explicitly requested):",
  "   - Use pagination with Next/Previous buttons to navigate between questions",
  "   - Show one question at a time with the current question number (e.g., \"Question 1 of 10\")",
  "   - Show a Submit button only on the last question instead of Next",
  "   - After submission, show results with the score and two buttons:",
  "     * \"Back to Home\" button that calls: window.parent.postMessage('navigateToHome', '*')",
  "     * \"Try Again\" button that resets the quiz state to start over",
  "   - Include answer checking with state management using useState",
  "",
  "   C. FOR MIXED CONTENT:",
  "   - Start with educational content, then a quiz at the end",
  "   - Add tabs or sections to switch between Learn and Practice modes",
  "",
  "6. Use modern React patterns with TypeScript",
  "7. NO external imports except React hooks (useState, useEffect, useMemo, useCallback, useRef)",
  "8. Declare every data array (questions, steps, cards, ...) BEFORE any hook or expression that reads it",
  "9. Never use eval, new Function, innerHTML, dangerouslySetInnerHTML, __proto__ or document.write",
  "10. Make the content educational, engaging, and well-structured with a clear hierarchy",
  "",
  "STYLING GUIDELINES:",
  "- Primary: blue-600, Success: green-600, Error: red-600, Warning: yellow-500",
  "- Background: gradient backgrounds (bg-gradient-to-br from-blue-50 to-purple-50)",
  "- Cards: shadow-lg hover:shadow-xl transition-shadow",
  "- Buttons: transform hover:scale-105 active:scale-95 transition-all",
  "- Use proper spacing (p-6, gap-6, space-y-6) and rounded corners (rounded-xl, rounded-lg)",
  "- Make it fully responsive with a mobile-first approach",
  "",
  "OUTPUT FORMAT:",
  "Start directly with: \"use client\";",
  "",
  "import \x7b useState \x7d from \"react\";",
  "",
  "export default function LessonComponent() \x7b",
  "  // Your code here",
  "\x7d",
  "\x7b\x7bATTEMPT_NOTE\x7d\x7d",
  "",
  "Create a lesson based on this outline:",
  "",
  "\x7b\x7bOUTLINE\x7d\x7d"]

/-- Asks for a draft without the violations of the one before. -/
def repairTemplate : Text := Text.ofLines [
  "The following TypeScript React component has CRITICAL validation errors that MUST be fixed:",
  "",
  "ERRORS (\x7b\x7bERROR_COUNT\x7d\x7d):",
  "\x7b\x7bERRORS\x7d\x7d",
  "",
  "PROBLEMATIC CODE:",
  "\x7b\x7bCODE\x7d\x7d",
  "",
  "You MUST fix ALL these errors and return a corrected version. Requirements:",
  "- Return ONLY valid TypeScript/React code (no markdown, no explanations, no code fences)",
  "- Must start with \"use client\"; directive",
  "- Must have exactly one: export default function ComponentName() \x7b",
  "- Must return valid JSX",
  "- Use ONLY React imports (useState, useEffect, etc.)",
  "- Use Tailwind CSS for all styling",
  "- NO dangerous patterns (eval, Function, innerHTML, etc.)",
  "- Ensure all braces, parentheses, and brackets are balanced",
  "- Component name must start with an uppercase letter",
  "- Declare data arrays before any hook or expression that reads them",
  "",
  "The lesson was requested with this outline:",
  "\x7b\x7bOUTLINE\x7d\x7d",
  "",
  "Return the FIXED code now (code only, no explanation):"]

/-- Asks for a title. -/
def titleTemplate : Text := Text.ofLines [
  "Extract a short, clear title (max 60 characters) from the lesson outline. Return only the title, nothing else.",
  "",
  "Lesson outline: \x7b\x7bOUTLINE\x7d\x7d"]

/-- Puts a text in all places of another, from the left. Looking goes on behind each place. -/
def replaceText (old new : Text) (t : Text) : Text :=
  match t with
  | [] => []
  | c :: rest =>
    if old.isPrefixOf (c :: rest) && old ≠ [] then new ++ replaceText old new ((c :: rest).drop (max old.length 1))
    else c :: replaceText old new rest
termination_by t.length
decreasing_by all_goals simp_wf; try omega

/-- The mark of a name in a template. -/
def mark (name : String) : Text := "\x7b\x7b" ++ Text.ofString name ++ "\x7d\x7d"

/-- Fills in names one after the other. What a name is filled with is looked through for the names
that come later. -/
def fill (template : Text) (values : List (String × Text)) : Text :=
  values.foldl (fun t v => replaceText (mark v.1) v.2 t) template

end LessonService.Generation
