import LessonService.Text.Basic

namespace LessonService.Request

/-- The words of groups. -/
def wordsOf (groups : List String) : List Text := groups.flatMap fun g => Text.splitOn '|' (Text.ofString g)

/-- Words in Latin letters, English and transcribed Hindi. -/
def latinGroups : List String := [
  "lesson|learn|teach|explain|understand|study|quiz|test|exam|practice",
  "topic|subject|concept|theory|example|tutorial|guide|course",
  "education|knowledge|skill|training|instruction|demonstration",
  "what|how|why|when|where|who|which",
  "interactive|diagram|visual|step|chapter|section|activity",
  "question|answer|solve|problem|exercise|challenge",
  "math|science|history|english|language|literature|art|music",
  "physics|chemistry|biology|geography|social|computer|technology",
  "create|generate|make|build|develop|design",
  "paath|seekhna|sikhana|samjhana|adhyayan|quiz|pariksha|abhyas",
  "vishay|avdharna|siddhant|udaharan|tutorial|pathyakram",
  "shiksha|gyaan|kaushal|prashikshan",
  "kya|kaise|kyon|kab|kahan|kaun",
  "ganit|vigyan|itihaas|bhoogol|bhautiki|rasayan|jeevvigyan"]

/-- Words in other scripts. -/
def scriptGroups : List String := [
  "पाठ|सीखना|सिखाना|समझाना|अध्ययन|क्विज़|परीक्षा|अभ्यास",
  "विषय|अवधारणा|सिद्धांत|उदाहरण|ट्यूटोरियल|पाठ्यक्रम",
  "शिक्षा|ज्ञान|कौशल|प्रशिक्षण",
  "क्या|कैसे|क्यों|कब|कहाँ|कौन",
  "गणित|विज्ञान|इतिहास|भूगोल|भौतिकी|रसायन|जीवविज्ञान",
  "பாடம்|கற்க|கற்பிக்க|விளக்க|புரிந்து|படிப்பு|வினாடி|தேர்வு|பயிற்சி",
  "தலைப்பு|கருத்து|கோட்பாடு|உதாரணம்",
  "கல்வி|அறிவு|திறன்",
  "என்ன|எப்படி|ஏன்|எப்போது|எங்கே",
  "கணிதம்|அறிவியல்|வரலாறு|புவியியல்|இயற்பியல்|வேதியியல்",
  "పాఠం|నేర్చుకో|బోధించు|వివరించు|అధ్యయనం|క్విజ్|పరీక్ష|అభ్యాసం",
  "విషయం|భావన|సిద్ధాంతం|ఉదాహరణ|శిక్షణ",
  "విద్య|జ్ఞానం|నైపుణ్యం",
  "ఏమిటి|ఎలా|ఎందుకు|ఎప్పుడు|ఎక్కడ",
  "గణితం|శాస్త్రం|చరిత్ర|భౌగోళికం|భౌతిక|రసాయన",
  "धडा|शिकणे|शिकवणे|समजावणे|क्विझ",
  "संकल्पना|मार्गदर्शन",
  "शिक्षण|कौशल्य",
  "काय|कसे|का|केव्हा|कुठे",
  "भौतिकशास्त्र",
  "পাঠ|শেখা|শেখানো|ব্যাখ্যা|অধ্যয়ন|কুইজ|পরীক্ষা|অনুশীলন",
  "বিষয়|ধারণা|তত্ত্ব|উদাহরণ|টিউটোরিয়াল",
  "শিক্ষা|জ্ঞান|দক্ষতা|প্রশিক্ষণ",
  "কী|কিভাবে|কেন|কখন|কোথায়",
  "গণিত|বিজ্ঞান|ইতিহাস|ভূগোল|পদার্থবিজ্ঞান|রসায়ন",
  "પાઠ|શીખવું|શીખવવું|સમજાવો|અભ્યાસ|ક્વિઝ|પરીક્ષા",
  "વિષય|ખ્યાલ|સિદ્ધાંત|ઉદાહરણ",
  "શિક્ષણ|જ્ઞાન|કુશળતા|તાલીમ",
  "શું|કેવી રીતે|શા માટે|ક્યારે|ક્યાં",
  "ગણિત|વિજ્ઞાન|ઇતિહાસ|ભૂગોળ|ભૌતિકશાસ્ત્ર",
  "ಪಾಠ|ಕಲಿಯಿರಿ|ಕಲಿಸಿ|ವಿವರಿಸಿ|ಅಧ್ಯಯನ|ಕ್ವಿಜ್|ಪರೀಕ್ಷೆ",
  "ವಿಷಯ|ಪರಿಕಲ್ಪನೆ|ಸಿದ್ಧಾಂತ|ಉದಾಹರಣೆ",
  "ಶಿಕ್ಷಣ|ಜ್ಞಾನ|ಕೌಶಲ್ಯ|ತರಬೇತಿ",
  "ಏನು|ಹೇಗೆ|ಏಕೆ|ಯಾವಾಗ|ಎಲ್ಲಿ",
  "ಗಣಿತ|ವಿಜ್ಞಾನ|ಇತಿಹಾಸ|ಭೂಗೋಳ|ಭೌತಶಾಸ್ತ್ರ",
  "പാഠം|പഠിക്കുക|പഠിപ്പിക്കുക|വിശദീകരിക്കുക|പഠനം|ക്വിസ്|പരീക്ഷ",
  "വിഷയം|സങ്കല്പം|സിദ്ധാന്തം|ഉദാഹരണം",
  "വിദ്യാഭ്യാസം|അറിവ്|കഴിവ്|പരിശീലനം",
  "എന്ത്|എങ്ങനെ|എന്തുകൊണ്ട്|എപ്പോൾ|എവിടെ",
  "ഗണിതം|ശാസ്ത്രം|ചരിത്രം|ഭൂമിശാസ്ത്രം|ഭൗതികം",
  "ਪਾਠ|ਸਿੱਖਣਾ|ਸਿਖਾਉਣਾ|ਸਮਝਾਉਣਾ|ਅਧਿਐਨ|ਕੁਇਜ਼|ਪ੍ਰੀਖਿਆ",
  "ਵਿਸ਼ਾ|ਧਾਰਨਾ|ਸਿਧਾਂਤ|ਉਦਾਹਰਨ",
  "ਸਿੱਖਿਆ|ਗਿਆਨ|ਹੁਨਰ|ਸਿਖਲਾਈ",
  "ਕੀ|ਕਿਵੇਂ|ਕਿਉਂ|ਕਦੋਂ|ਕਿੱਥੇ",
  "ਗਣਿਤ|ਵਿਗਿਆਨ|ਇਤਿਹਾਸ|ਭੂਗੋਲ|ਭੌਤਿਕ",
  "سبق|سیکھنا|سکھانا|سمجھانا|مطالعہ|کوئز|امتحان",
  "موضوع|تصور|نظریہ|مثال",
  "تعلیم|علم|مہارت|تربیت",
  "کیا|کیسے|کیوں|کب|کہاں",
  "ریاضی|سائنس|تاریخ|جغرافیہ|طبیعیات"]

def latinKeywords : List Text := wordsOf latinGroups

def scriptKeywords : List Text := wordsOf scriptGroups

end LessonService.Request
